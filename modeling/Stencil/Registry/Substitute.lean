import Stencil.Registry.Basic
import Stencil.Text.Search

/-!
Putting values in the place of placeholders, in one pass from left to right. The pass jumps from
one occurrence of the marker to the next; put-in values are not read again.
-/

namespace Stencil

/-- Placeholders and the texts for them. -/
abbrev Replacements := List (List Char × List Char)

/-- Longer placeholders first; those of equal length keep their order. -/
def Replacements.longestFirst (replacements : Replacements) : Replacements :=
  replacements.mergeSort fun first second => second.1.length ≤ first.1.length

/-- At each occurrence of the marker the first placeholder that begins there is replaced. Where
none does, the pass goes on one character further. -/
def Replacements.run (replacements : Replacements) (marker text : List Char) : List Char :=
  match _h : Text.breakOn? marker text with
  | none => text
  | some (before, []) => before
  | some (before, c :: after) =>
    match replacements.find? fun (placeholder, _) => placeholder.isPrefixOf (c :: after) with
    | some (placeholder, value) =>
      before ++ value ++ replacements.run marker (after.drop (placeholder.length - 1))
    | none => before ++ c :: replacements.run marker after
termination_by text.length
decreasing_by
  · have := congrArg List.length (Text.append_of_breakOn? _h)
    simp only [List.length_append, List.length_cons] at this
    simp only [List.length_drop]
    omega
  · have := congrArg List.length (Text.append_of_breakOn? _h)
    simp only [List.length_append, List.length_cons] at this
    omega

namespace Registry

/-- The texts for all placeholders, in the order of provision. The first value that cannot become
text is an error, whether its placeholder occurs or not. -/
def renderAll (registry : Registry) : Except TemplateError (List (String × String)) :=
  registry.entries.mapM fun (key, replacer) =>
    (replacer.render key).map fun text => (registry.placeholder key, text)

/-- A text with every placeholder replaced. -/
def substitute (registry : Registry) (text : String) : Except TemplateError String :=
  registry.renderAll.map fun rendered =>
    if rendered.isEmpty then text
    else
      let replacements : Replacements :=
        rendered.map fun (placeholder, value) => (placeholder.toList, value.toList)
      String.ofList (replacements.longestFirst.run registry.marker.toList text.toList)

end Registry

end Stencil
