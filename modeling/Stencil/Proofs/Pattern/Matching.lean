import Mathlib.Data.List.Basic
import Mathlib.Data.List.Nodup
import Mathlib.Data.List.Perm.Subperm
import Stencil.Pattern.Regex

/-!
What regular expressions match. `Regex.Matches` gives the meaning of an expression as a relation on
positions, one clause for each form, where a repetition is any admitted number of passes. The
matcher works on sets of positions without repetition and gives up early; `mem_ends_iff` says that
it still finds every position that the relation allows, and no other. A search through a text
therefore finds a part that the expression matches whenever there is one.
-/

namespace Stencil.Pattern

namespace Position

/-- Both are positions of one text, the second not before the first: the characters between them
lead from the one to the other. -/
def Leads (p q : Position) : Prop :=
  ∃ word, p.rest = word ++ q.rest ∧ q.before = word.getLast?.or p.before

variable {origin p q r : Position} {positions : List Position} {step : Position → List Position}
  {move : Position → Position → Prop} {n rounds : Nat}

theorem Leads.refl (p : Position) : p.Leads p :=
  ⟨[], rfl, rfl⟩

theorem Leads.trans (hpq : p.Leads q) (hqr : q.Leads r) : p.Leads r := by
  obtain ⟨first, hfirst, hq⟩ := hpq
  obtain ⟨second, hsecond, hr⟩ := hqr
  refine ⟨first ++ second, ?_, ?_⟩
  · rw [hfirst, hsecond, List.append_assoc]
  · rw [hr, hq, List.getLast?_append, Option.or_assoc]

/-- Of the positions that one leads to, each is known by how much is left. -/
theorem Leads.eq_of_length_eq (hp : origin.Leads p) (hq : origin.Leads q)
    (hlength : p.rest.length = q.rest.length) : p = q := by
  obtain ⟨front, hfront, hbefore⟩ := hp
  obtain ⟨other, hother, hbefore'⟩ := hq
  have hsame : front ++ p.rest = other ++ q.rest := hfront.symm.trans hother
  obtain ⟨rfl, hrest⟩ := List.append_inj' hsame hlength
  obtain ⟨before, rest⟩ := p
  obtain ⟨before', rest'⟩ := q
  rw [Position.mk.injEq]
  exact ⟨hbefore.trans hbefore'.symm, hrest⟩

theorem Leads.eq_or_length_lt (h : p.Leads q) : q = p ∨ q.rest.length < p.rest.length := by
  by_cases hlength : p.rest.length = q.rest.length
  · exact Or.inl (h.eq_of_length_eq (Leads.refl p) hlength.symm)
  · obtain ⟨word, hword, -⟩ := h
    have hsum := congrArg List.length hword
    rw [List.length_append] at hsum
    omega

theorem distinct_cons (p : Position) (positions : List Position) :
    distinct (p :: positions) =
      if (distinct positions).any fun other => other.rest.length = p.rest.length then
        distinct positions
      else p :: distinct positions :=
  rfl

theorem distinct_subset (positions : List Position) : distinct positions ⊆ positions := by
  induction positions with
  | nil => exact List.Subset.refl _
  | cons p positions ih =>
      rw [distinct_cons]
      split
      · exact List.subset_cons_of_subset p ih
      · exact List.cons_subset_cons p ih

theorem nodup_distinct (positions : List Position) : (distinct positions).Nodup := by
  induction positions with
  | nil => exact List.nodup_nil
  | cons p positions ih =>
      rw [distinct_cons]
      split
      · exact ih
      · next hnew =>
        refine List.nodup_cons.mpr ⟨?_, ih⟩
        intro hmem
        exact hnew (List.any_eq_true.mpr ⟨p, hmem, decide_eq_true rfl⟩)

/-- Among positions of one text nothing is lost. -/
theorem mem_distinct_iff (hpositions : ∀ p ∈ positions, origin.Leads p) :
    q ∈ distinct positions ↔ q ∈ positions := by
  refine ⟨fun h => distinct_subset positions h, ?_⟩
  intro hmem
  induction positions with
  | nil => exact hmem
  | cons p positions ih =>
      rw [List.forall_mem_cons] at hpositions
      rw [distinct_cons]
      rcases List.mem_cons.mp hmem with rfl | hrest
      · split
        · next hany =>
          obtain ⟨other, hother, hlength⟩ := List.any_eq_true.mp hany
          have hleads := hpositions.2 other (distinct_subset positions hother)
          have heq : other = q := hleads.eq_of_length_eq hpositions.1 (of_decide_eq_true hlength)
          rwa [← heq]
        · exact List.mem_cons_self
      · have hkept := ih hpositions.2 hrest
        split
        · exact hkept
        · exact List.mem_cons_of_mem p hkept

/-- A number of moves, one after the other. -/
inductive Times (move : Position → Position → Prop) : Nat → Position → Position → Prop where
  | stay (p : Position) : Times move 0 p p
  | next {n : Nat} {p q r : Position} : move p q → Times move n q r → Times move (n + 1) p r

theorem times_zero_iff : Times move 0 p r ↔ r = p := by
  constructor
  · rintro ⟨⟩
    rfl
  · rintro rfl
    exact Times.stay r

theorem times_succ_iff : Times move (n + 1) p r ↔ ∃ q, move p q ∧ Times move n q r := by
  constructor
  · rintro (_ | ⟨hmove, htimes⟩)
    exact ⟨_, hmove, htimes⟩
  · rintro ⟨q, hmove, htimes⟩
    exact Times.next hmove htimes

theorem Times.leads (hmove : ∀ p q, move p q → p.Leads q) (h : Times move n p r) : p.Leads r := by
  induction h with
  | stay p => exact Leads.refl p
  | next hfirst _ ih => exact (hmove _ _ hfirst).trans ih

/-- Moves that take nothing can be left out, so there need not be more of them than characters. -/
theorem Times.shorten (hmove : ∀ p q, move p q → p.Leads q) (h : Times move n p r) :
    ∃ k ≤ n, k ≤ p.rest.length ∧ Times move k p r := by
  induction h with
  | stay p => exact ⟨0, Nat.le_refl 0, Nat.zero_le _, Times.stay p⟩
  | @next n p q r hfirst _ ih =>
      obtain ⟨k, hk, hlength, htimes⟩ := ih
      rcases (hmove p q hfirst).eq_or_length_lt with rfl | hshorter
      · exact ⟨k, by omega, hlength, htimes⟩
      · exact ⟨k + 1, by omega, by omega, Times.next hfirst htimes⟩

theorem Times.mem (h : Times move n p r) (hclosed : ∀ p ∈ positions, ∀ q, move p q → q ∈ positions)
    (hp : p ∈ positions) : r ∈ positions := by
  induction h with
  | stay p => exact hp
  | next hfirst _ ih => exact ih (hclosed _ hp _ hfirst)

section

variable (hstep : ∀ p, ∀ q ∈ step p, p.Leads q) (hpositions : ∀ p ∈ positions, origin.Leads p)

include hstep hpositions

theorem leads_of_mem_flatMap (hq : q ∈ positions.flatMap step) : origin.Leads q := by
  obtain ⟨p, hp, hmem⟩ := List.mem_flatMap.mp hq
  exact (hpositions p hp).trans (hstep p q hmem)

theorem mem_iterate_iff :
    r ∈ iterate step n positions ↔ ∃ p ∈ positions, Times (fun p q => q ∈ step p) n p r := by
  induction n generalizing positions with
  | zero => simp [iterate, times_zero_iff]
  | succ n ih =>
      rw [iterate]
      split
      · next hempty => simp [List.isEmpty_iff.mp hempty]
      · have hreached : ∀ q ∈ positions.flatMap step, origin.Leads q := fun q hq =>
          leads_of_mem_flatMap hstep hpositions hq
        rw [ih fun q hq => hreached q (distinct_subset _ hq)]
        simp only [mem_distinct_iff hreached, List.mem_flatMap, times_succ_iff]
        tauto

/-- One round: the positions so far, and those that are one step away. -/
theorem mem_round_iff :
    q ∈ distinct (positions ++ positions.flatMap step) ↔
      q ∈ positions ∨ ∃ p ∈ positions, q ∈ step p := by
  have hreached : ∀ q ∈ positions ++ positions.flatMap step, origin.Leads q := by
    intro q hq
    rcases List.mem_append.mp hq with hold | hnew
    · exact hpositions q hold
    · exact leads_of_mem_flatMap hstep hpositions hnew
  rw [mem_distinct_iff hreached, List.mem_append, List.mem_flatMap]

/-- A round that adds nothing shows that there is nothing left to add. -/
theorem mem_of_step_of_length_eq (hnodup : positions.Nodup)
    (hlength : (distinct (positions ++ positions.flatMap step)).length = positions.length)
    (hp : p ∈ positions) (hq : q ∈ step p) : q ∈ positions := by
  have hsubset : positions ⊆ distinct (positions ++ positions.flatMap step) := fun q hq =>
    (mem_round_iff hstep hpositions).mpr (Or.inl hq)
  have hperm := (hnodup.subperm hsubset).perm_of_length_le (Nat.le_of_eq hlength)
  rw [hperm.mem_iff, mem_round_iff hstep hpositions]
  exact Or.inr ⟨p, hp, hq⟩

theorem mem_closure_iff (hnodup : positions.Nodup) :
    r ∈ closure step rounds positions ↔
      ∃ k ≤ rounds, ∃ p ∈ positions, Times (fun p q => q ∈ step p) k p r := by
  induction rounds generalizing positions with
  | zero => simp [closure, times_zero_iff]
  | succ rounds ih =>
      rw [closure]
      split
      · next hlength =>
        constructor
        · intro hr
          exact ⟨0, Nat.zero_le _, r, hr, Times.stay r⟩
        · rintro ⟨k, -, p, hp, htimes⟩
          exact htimes.mem (fun p hp q hq =>
            mem_of_step_of_length_eq hstep hpositions hnodup hlength hp hq) hp
      · have hround : ∀ q ∈ distinct (positions ++ positions.flatMap step), origin.Leads q := by
          intro q hq
          rcases (mem_round_iff hstep hpositions).mp hq with hold | ⟨p, hp, hnew⟩
          · exact hpositions q hold
          · exact (hpositions p hp).trans (hstep p q hnew)
        rw [ih hround (nodup_distinct _)]
        simp only [mem_round_iff hstep hpositions]
        constructor
        · rintro ⟨k, hk, q, hold | ⟨p, hp, hq⟩, htimes⟩
          · exact ⟨k, by omega, q, hold, htimes⟩
          · exact ⟨k + 1, by omega, p, hp, Times.next hq htimes⟩
        · rintro ⟨k, hk, p, hp, htimes⟩
          cases htimes with
          | stay => exact ⟨0, Nat.zero_le _, r, Or.inl hp, Times.stay r⟩
          | @next k _ q _ hfirst hrest =>
              exact ⟨k, by omega, q, Or.inr ⟨p, hp, hfirst⟩, hrest⟩

end

theorem nodup_iterate (hnodup : positions.Nodup) : (iterate step n positions).Nodup := by
  induction n generalizing positions with
  | zero => exact hnodup
  | succ n ih =>
      rw [iterate]
      split
      · exact List.nodup_nil
      · exact ih (nodup_distinct _)

end Position

open Position (Leads Times)

namespace Regex

variable {regex : Regex} {p q : Position} {text : List Char}

/-- The meaning of an expression: the positions that it can match between. A repetition makes its
required passes and then as many more as it likes, or as its bound leaves. -/
def Matches : Regex → Position → Position → Prop
  | .empty => fun p q => q = p
  | .one chars => fun p q =>
    ∃ c, chars.contains c = true ∧ p.rest = c :: q.rest ∧ q.before = some c
  | .anchor condition => fun p q => p.satisfies condition = true ∧ q = p
  | .sequence first second => fun p r => ∃ q, first.Matches p q ∧ second.Matches q r
  | .choice first second => fun p q => first.Matches p q ∨ second.Matches p q
  | .repeated inner least most => fun p r =>
    ∃ q, Times inner.Matches least p q ∧
      ∃ more, (∀ bound ∈ most, more ≤ bound - least) ∧ Times inner.Matches more q r

theorem Matches.leads (h : regex.Matches p q) : p.Leads q := by
  induction regex generalizing p q with
  | empty =>
      rw [h]
      exact Leads.refl p
  | one chars =>
      obtain ⟨c, -, hrest, hbefore⟩ := h
      exact ⟨[c], hrest, hbefore⟩
  | anchor condition =>
      rw [h.2]
      exact Leads.refl p
  | sequence first second ihfirst ihsecond =>
      obtain ⟨middle, hfirst, hsecond⟩ := h
      exact (ihfirst hfirst).trans (ihsecond hsecond)
  | choice first second ihfirst ihsecond =>
      rcases h with hfirst | hsecond
      · exact ihfirst hfirst
      · exact ihsecond hsecond
  | repeated inner least most ih =>
      obtain ⟨middle, hrequired, more, -, hmore⟩ := h
      exact (hrequired.leads fun _ _ => ih).trans (hmore.leads fun _ _ => ih)

theorem mem_ends_one_iff (chars : CharClass) :
    q ∈ (one chars).ends p ↔ (one chars).Matches p q := by
  obtain ⟨before, rest⟩ := p
  obtain ⟨before', rest'⟩ := q
  cases rest with
  | nil => simp [ends, Matches]
  | cons c rest =>
      by_cases hc : chars.contains c = true
      · have hsame : before' = some c ∧ rest' = rest ↔ rest = rest' ∧ before' = some c := by
          rw [and_comm, eq_comm]
        simpa [ends, Matches, hc] using hsame
      · simp [ends, Matches, hc]

section

variable {inner : Regex} (hinner : ∀ {p q}, q ∈ inner.ends p ↔ inner.Matches p q)

include hinner

theorem mem_required_iff (least : Nat) :
    q ∈ Position.iterate inner.ends least [p] ↔ Times inner.Matches least p q := by
  have hstep : ∀ p, ∀ q ∈ inner.ends p, p.Leads q := fun _ _ hq => (hinner.mp hq).leads
  have hstart : ∀ q ∈ [p], p.Leads q := by
    intro q hq
    rw [List.mem_singleton.mp hq]
    exact Leads.refl p
  have hmove : (fun p q => q ∈ inner.ends p) = inner.Matches := by
    funext p q
    exact propext hinner
  rw [Position.mem_iterate_iff hstep hstart, hmove]
  simp

theorem mem_closure_required_iff (least rounds : Nat) :
    q ∈ Position.closure inner.ends rounds (Position.iterate inner.ends least [p]) ↔
      ∃ middle, Times inner.Matches least p middle ∧
        ∃ more ≤ rounds, Times inner.Matches more middle q := by
  have hstep : ∀ p, ∀ q ∈ inner.ends p, p.Leads q := fun _ _ hq => (hinner.mp hq).leads
  have hleads : ∀ q ∈ Position.iterate inner.ends least [p], p.Leads q := fun q hq =>
    ((mem_required_iff hinner least).mp hq).leads fun _ _ => Matches.leads
  have hnodup : (Position.iterate inner.ends least [p]).Nodup :=
    Position.nodup_iterate (List.nodup_singleton p)
  have hmove : (fun p q => q ∈ inner.ends p) = inner.Matches := by
    funext p q
    exact propext hinner
  rw [Position.mem_closure_iff hstep hleads hnodup, hmove]
  simp only [mem_required_iff hinner]
  constructor
  · rintro ⟨more, hmore, middle, hrequired, htimes⟩
    exact ⟨middle, hrequired, more, hmore, htimes⟩
  · rintro ⟨middle, hrequired, more, hmore, htimes⟩
    exact ⟨more, hmore, middle, hrequired, htimes⟩

/-- No more passes are needed than there are characters left. -/
theorem mem_ends_repeated_iff (least : Nat) (most : Option Nat) :
    q ∈ (repeated inner least most).ends p ↔ (repeated inner least most).Matches p q := by
  have hfew {middle : Position} {more : Nat} (hrequired : Times inner.Matches least p middle)
      (hmore : Times inner.Matches more middle q) :
      ∃ fewer ≤ more, fewer ≤ p.rest.length + 1 ∧ Times inner.Matches fewer middle q := by
    obtain ⟨fewer, hfewer, hlength, htimes⟩ := hmore.shorten fun _ _ => Matches.leads
    have hleads : p.Leads middle := hrequired.leads fun _ _ => Matches.leads
    refine ⟨fewer, hfewer, ?_, htimes⟩
    rcases hleads.eq_or_length_lt with rfl | hshorter
    · omega
    · omega
  rw [Matches]
  cases most with
  | none =>
      simp only [ends, mem_closure_required_iff hinner]
      constructor
      · rintro ⟨middle, hrequired, more, -, hmore⟩
        exact ⟨middle, hrequired, more, by simp, hmore⟩
      · rintro ⟨middle, hrequired, more, -, hmore⟩
        obtain ⟨fewer, -, hfewer, htimes⟩ := hfew hrequired hmore
        exact ⟨middle, hrequired, fewer, hfewer, htimes⟩
  | some bound =>
      simp only [ends, mem_closure_required_iff hinner]
      constructor
      · rintro ⟨middle, hrequired, more, hrounds, hmore⟩
        refine ⟨middle, hrequired, more, ?_, hmore⟩
        rintro _ ⟨⟩
        omega
      · rintro ⟨middle, hrequired, more, hbound, hmore⟩
        obtain ⟨fewer, hle, hfewer, htimes⟩ := hfew hrequired hmore
        have hmost := hbound bound rfl
        exact ⟨middle, hrequired, fewer, by omega, htimes⟩

end

/-- The matcher finds exactly the positions that the meaning of the expression allows. -/
theorem mem_ends_iff : q ∈ regex.ends p ↔ regex.Matches p q := by
  induction regex generalizing p q with
  | empty => simp [ends, Matches]
  | one chars => exact mem_ends_one_iff chars
  | anchor condition =>
      by_cases hsatisfied : p.satisfies condition = true
      · simp [ends, Matches, hsatisfied]
      · simp [ends, Matches, hsatisfied]
  | sequence first second ihfirst ihsecond =>
      have hleads : ∀ r ∈ (first.ends p).flatMap second.ends, p.Leads r := by
        intro r hr
        obtain ⟨middle, hmiddle, hend⟩ := List.mem_flatMap.mp hr
        exact (ihfirst.mp hmiddle).leads.trans (ihsecond.mp hend).leads
      rw [ends, Position.mem_distinct_iff hleads, List.mem_flatMap]
      simp only [ihfirst, ihsecond, Matches]
  | choice first second ihfirst ihsecond =>
      have hleads : ∀ r ∈ first.ends p ++ second.ends p, p.Leads r := by
        intro r hr
        rcases List.mem_append.mp hr with hfirst | hsecond
        · exact (ihfirst.mp hfirst).leads
        · exact (ihsecond.mp hsecond).leads
      rw [ends, Position.mem_distinct_iff hleads, List.mem_append, ihfirst, ihsecond]
      rfl
  | repeated inner least most ih => exact mem_ends_repeated_iff ih least most

/-- The expression matches the middle one of three consecutive parts of a text. -/
def MatchesPart (regex : Regex) (front middle back : List Char) : Prop :=
  regex.Matches ⟨front.getLast?, middle ++ back⟩ ⟨(front ++ middle).getLast?, back⟩

theorem isEmpty_ends_iff (front rest : List Char) :
    (regex.ends ⟨front.getLast?, rest⟩).isEmpty = false ↔
      ∃ middle back, rest = middle ++ back ∧ regex.MatchesPart front middle back := by
  rw [List.isEmpty_eq_false_iff_exists_mem]
  simp only [mem_ends_iff]
  constructor
  · rintro ⟨⟨before, back⟩, hmatch⟩
    obtain ⟨middle, hmiddle, hbefore⟩ := hmatch.leads
    dsimp only at hmiddle hbefore
    subst hmiddle hbefore
    refine ⟨middle, back, rfl, ?_⟩
    rwa [MatchesPart, List.getLast?_append]
  · rintro ⟨middle, back, rfl, hpart⟩
    exact ⟨_, hpart⟩

theorem occursFrom_iff (front rest : List Char) :
    regex.occursFrom front.getLast? rest = true ↔
      ∃ skipped middle back, rest = skipped ++ (middle ++ back) ∧
        regex.MatchesPart (front ++ skipped) middle back := by
  induction rest generalizing front with
  | nil =>
      rw [occursFrom, Bool.not_eq_true', isEmpty_ends_iff]
      simp
  | cons c rest ih =>
      have hnext : some c = (front ++ [c]).getLast? := by simp
      rw [occursFrom, Bool.or_eq_true, Bool.not_eq_true', isEmpty_ends_iff, hnext, ih]
      constructor
      · rintro (⟨middle, back, hrest, hpart⟩ | ⟨skipped, middle, back, hrest, hpart⟩)
        · exact ⟨[], middle, back, hrest, by rwa [List.append_nil]⟩
        · refine ⟨c :: skipped, middle, back, by rw [hrest, List.cons_append], ?_⟩
          rwa [List.append_assoc, List.singleton_append] at hpart
      · rintro ⟨skipped, middle, back, hrest, hpart⟩
        cases skipped with
        | nil =>
            rw [List.append_nil] at hpart
            exact Or.inl ⟨middle, back, hrest, hpart⟩
        | cons d skipped =>
            obtain ⟨rfl, htail⟩ := List.cons.inj hrest
            refine Or.inr ⟨skipped, middle, back, htail, ?_⟩
            rwa [List.append_assoc, List.singleton_append]

/-- A search succeeds exactly when the expression matches some part of the text. -/
theorem occursIn_iff :
    regex.occursIn text = true ↔
      ∃ front middle back, text = front ++ (middle ++ back) ∧
        regex.MatchesPart front middle back :=
  occursFrom_iff [] text

end Regex

end Stencil.Pattern
