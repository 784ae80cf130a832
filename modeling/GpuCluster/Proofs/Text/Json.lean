import GpuCluster.Proofs.Text.Decimal
import GpuCluster.Text.Json.Parse

/-!
# What a JSON text holds

The grammar runs on fuel, and `parse?` gives it fuel for twice the length of the text. Here it is
shown that no fuel reads more.

* `Leaves found s` : what is left behind something that was read in `s` is the end of `s`;
* `leaves_readNumeral`, `leaves_readString`, `leavesAt` : this holds of every token and value;
* `reaches` : what some fuel reads is read with fuel for twice the length;
* `parse?_eq_some_iff` : a text holds a value exactly if the grammar reads it on some fuel.
-/

namespace GpuCluster

/-- What is left behind something that was read is the end of the text. -/
def Leaves {α : Type} (found : Option (α × List Char)) (s : List Char) : Prop :=
  ∀ a rest, found = some (a, rest) → rest <:+ s

namespace Leaves

variable {α β : Type} {found : Option (α × List Char)} {s t : List Char}

theorem mono (h : Leaves found s) (ht : s <:+ t) : Leaves found t :=
  fun a rest hfound => (h a rest hfound).trans ht

theorem none : Leaves (Option.none : Option (α × List Char)) s := nofun

theorem some {a : α} (h : t <:+ s) : Leaves (some (a, t)) s := by
  rintro a rest ⟨⟩
  exact h

theorem map (h : Leaves found s) (f : α → β) :
    Leaves (found.map fun p => (f p.1, p.2)) s := by
  rintro b rest hfound
  obtain ⟨p, hp, heq⟩ := Option.map_eq_some_iff.1 hfound
  cases heq
  exact h p.1 p.2 hp

end Leaves

namespace Decimal

variable {s : List Char}

theorem readDigits_suffix (s : List Char) : (readDigits s).2.2 <:+ s := by
  rw [readDigits_eq]
  exact List.dropWhile_suffix _

/-- The digits of a power after its sign. -/
theorem leaves_power {t : List Char} (ht : t <:+ s) (minus : Bool) :
    Leaves (match readDigits t with
      | (_, 0, _) => none
      | (value, _, rest) => some (if minus then -(value : Int) else value, rest)) s := by
  have hrest := (readDigits_suffix t).trans ht
  split
  next => exact .none
  next hread =>
    rw [hread] at hrest
    exact .some hrest

theorem leaves_readExponent (s : List Char) : Leaves (readExponent s) s := by
  cases s with
  | nil => exact .none
  | cons e t =>
    unfold readExponent
    dsimp only
    by_cases he : e = 'e' ∨ e = 'E'
    · rw [if_pos he]
      refine leaves_power ?_ _
      split
      next r => exact List.suffix_append [e, '-'] r
      next r => exact List.suffix_append [e, '+'] r
      next => exact List.suffix_cons ..
    · rw [if_neg he]
      exact .none

end Decimal

namespace Json

variable {s rest : List Char} {j : Json} {fuel f g : Nat}

theorem skipBlanks_suffix (s : List Char) : skipBlanks s <:+ s := List.dropWhile_suffix _

theorem suffix_of_skipBlanks {c : Char} (h : skipBlanks s = c :: rest) : rest <:+ s :=
  (List.suffix_cons c rest).trans (h ▸ skipBlanks_suffix s)

theorem length_lt_of_skipBlanks {c : Char} (h : skipBlanks s = c :: rest) :
    rest.length < s.length := by
  have hlength := (skipBlanks_suffix s).length_le
  rwa [h, List.length_cons] at hlength

theorem readFraction_suffix {fraction places : Nat}
    (h : readFraction s = some (fraction, places, rest)) : rest <:+ s := by
  unfold readFraction at h
  split at h
  next t =>
    have ht := (Decimal.readDigits_suffix t).trans (List.suffix_cons '.' t)
    split at h
    next => cases h
    next =>
      rw [Option.some.inj h] at ht
      exact ht
  next =>
    cases h
    exact List.suffix_rfl

theorem leaves_readPower (s : List Char) : Leaves (readPower s) s := by
  unfold readPower
  split
  next t => exact (Decimal.leaves_readExponent _).map some
  next t => exact (Decimal.leaves_readExponent _).map some
  next => exact .some List.suffix_rfl

theorem leaves_readNumeral (s : List Char) : Leaves (readNumeral s) s := by
  intro n rest h
  unfold readNumeral at h
  split at h
  next negative t hsign =>
    have ht : t <:+ s := by
      split at hsign
      next =>
        cases hsign
        exact List.suffix_cons ..
      next =>
        cases hsign
        exact List.suffix_rfl
    split at h
    next whole count u hread =>
      have hu := (Decimal.readDigits_suffix t).trans ht
      rw [hread] at hu
      dsimp only at h
      split at h
      next => cases h
      split at h
      next => cases h
      obtain ⟨⟨fraction, places, v⟩, hfraction, h⟩ := Option.bind_eq_some_iff.1 h
      obtain ⟨⟨power, w⟩, hpower, h⟩ := Option.bind_eq_some_iff.1 h
      cases h
      exact ((leaves_readPower v _ _ hpower).trans (readFraction_suffix hfraction)).trans hu

theorem leaves_readUnits (s : List Char) : Leaves (readUnits s) s := by
  fun_induction readUnits s with
  | case1 => exact .none
  | case2 => exact .some (List.suffix_cons ..)
  | case3 a b c d t code units rest hread hcode ih =>
    exact .some ((ih _ _ hread).trans ⟨['\\', 'u', a, b, c, d], rfl⟩)
  | case4 => exact .none
  | case5 e t hu c units rest hread hshort ih =>
    exact .some ((ih _ _ hread).trans ⟨['\\', e], rfl⟩)
  | case6 => exact .none
  | case7 => exact .none
  | case8 c t hquote hu he hc ih => exact (ih.map _).mono (List.suffix_cons ..)

theorem leaves_readString (s : List Char) : Leaves (readString s) s :=
  (leaves_readUnits s).map fun units => (joinUnits units).map String.ofList

/-! ## Values -/

/-- What is left behind a value, or behind the elements or members of one. -/
structure LeavesAt (fuel : Nat) : Prop where
  value (s : List Char) : Leaves (value fuel s) s
  elements (s : List Char) : Leaves (elements fuel s) s
  members (s : List Char) : Leaves (members fuel s) s

theorem LeavesAt.value_succ (h : LeavesAt fuel) (s : List Char) :
    Leaves (Json.value (fuel + 1) s) s := by
  unfold Json.value
  split
  next t hs => exact .some ((List.suffix_append ['u', 'l', 'l'] t).trans (suffix_of_skipBlanks hs))
  next t hs => exact .some ((List.suffix_append ['r', 'u', 'e'] t).trans (suffix_of_skipBlanks hs))
  next t hs =>
    exact .some ((List.suffix_append ['a', 'l', 's', 'e'] t).trans (suffix_of_skipBlanks hs))
  next t hs =>
    intro x rest h
    obtain ⟨⟨text, r⟩, hread, heq⟩ := Option.map_eq_some_iff.1 h
    cases heq
    exact (leaves_readString t _ _ hread).trans (suffix_of_skipBlanks hs)
  next t hs =>
    have ht := suffix_of_skipBlanks hs
    split
    next u hu => exact .some ((suffix_of_skipBlanks hu).trans ht)
    next => exact ((h.elements _).map arr).mono ((skipBlanks_suffix t).trans ht)
  next t hs =>
    have ht := suffix_of_skipBlanks hs
    split
    next u hu => exact .some ((suffix_of_skipBlanks hu).trans ht)
    next => exact ((h.members _).map obj).mono ((skipBlanks_suffix t).trans ht)
  next => exact ((leaves_readNumeral _).map num).mono (skipBlanks_suffix s)

theorem LeavesAt.elements_succ (h : LeavesAt fuel) (s : List Char) :
    Leaves (Json.elements (fuel + 1) s) s := by
  unfold Json.elements
  split
  next => exact .none
  next x t hx =>
    have ht := h.value s _ _ hx
    split
    next u hu => exact ((h.elements u).map (x :: ·)).mono ((suffix_of_skipBlanks hu).trans ht)
    next u hu => exact .some ((suffix_of_skipBlanks hu).trans ht)
    next => exact .none

theorem LeavesAt.members_succ (h : LeavesAt fuel) (s : List Char) :
    Leaves (Json.members (fuel + 1) s) s := by
  unfold Json.members
  split
  next t hs =>
    split
    next name u hname =>
      have hu := (leaves_readString t _ _ hname).trans (suffix_of_skipBlanks hs)
      split
      next v hv =>
        split
        next => exact .none
        next x w hx =>
          have hw := ((h.value v _ _ hx).trans (suffix_of_skipBlanks hv)).trans hu
          split
          next z hz =>
            exact ((h.members z).map ((name, x) :: ·)).mono ((suffix_of_skipBlanks hz).trans hw)
          next z hz => exact .some ((suffix_of_skipBlanks hz).trans hw)
          next => exact .none
      next => exact .none
    next => exact .none
  next => exact .none

theorem leavesAt : ∀ fuel, LeavesAt fuel
  | 0 => ⟨fun _ => .none, fun _ => .none, fun _ => .none⟩
  | fuel + 1 =>
    have h := leavesAt fuel
    ⟨h.value_succ, h.elements_succ, h.members_succ⟩

/-- What fuel `f` reads is read with fuel `g` too, if that is enough for the length. -/
structure Reaches (f g : Nat) : Prop where
  value {s : List Char} {p : Json × List Char} (h : value f s = some p)
    (hg : 2 * s.length ≤ g) : value g s = some p
  elements {s : List Char} {p : List Json × List Char} (h : elements f s = some p)
    (hg : 2 * s.length < g) : elements g s = some p
  members {s : List Char} {p : List (String × Json) × List Char} (h : members f s = some p)
    (hg : 2 * s.length < g) : members g s = some p

theorem Reaches.value_succ (h : Reaches f g) {p : Json × List Char}
    (hp : Json.value (f + 1) s = some p) (hg : 2 * s.length ≤ g + 1) :
    Json.value (g + 1) s = some p := by
  revert hp
  unfold Json.value
  -- only arrays and objects hand the fuel on, with a character less to read
  split
  next => exact id
  next => exact id
  next => exact id
  next => exact id
  next t hs =>
    have ht := length_lt_of_skipBlanks hs
    have hrest := (skipBlanks_suffix t).length_le
    split
    next => exact id
    next =>
      intro hp
      obtain ⟨q, hq, rfl⟩ := Option.map_eq_some_iff.1 hp
      exact Option.map_eq_some_iff.2 ⟨q, h.elements hq (by omega), rfl⟩
  next t hs =>
    have ht := length_lt_of_skipBlanks hs
    have hrest := (skipBlanks_suffix t).length_le
    split
    next => exact id
    next =>
      intro hp
      obtain ⟨q, hq, rfl⟩ := Option.map_eq_some_iff.1 hp
      exact Option.map_eq_some_iff.2 ⟨q, h.members hq (by omega), rfl⟩
  next => exact id

theorem Reaches.elements_succ (h : Reaches f g) {p : List Json × List Char}
    (hp : Json.elements (f + 1) s = some p) (hg : 2 * s.length < g + 1) :
    Json.elements (g + 1) s = some p := by
  unfold Json.elements at hp ⊢
  split at hp
  next => cases hp
  next x t hx =>
    have ht := ((leavesAt f).value s _ _ hx).length_le
    rw [h.value hx (by omega)]
    revert hp
    dsimp only
    split
    next u hu =>
      intro hp
      have hrest := length_lt_of_skipBlanks hu
      obtain ⟨q, hq, rfl⟩ := Option.map_eq_some_iff.1 hp
      exact Option.map_eq_some_iff.2 ⟨q, h.elements hq (by omega), rfl⟩
    next => exact id
    next => exact id

theorem Reaches.members_succ (h : Reaches f g) {p : List (String × Json) × List Char}
    (hp : Json.members (f + 1) s = some p) (hg : 2 * s.length < g + 1) :
    Json.members (g + 1) s = some p := by
  revert hp
  unfold Json.members
  split
  next t hs =>
    have ht := length_lt_of_skipBlanks hs
    split
    next name u hname =>
      have hu := (leaves_readString t _ _ hname).length_le
      split
      next v hv =>
        have hcolon := length_lt_of_skipBlanks hv
        intro hp
        split at hp
        next => cases hp
        next x w hx =>
          have hw := ((leavesAt f).value v _ _ hx).length_le
          rw [h.value hx (by omega)]
          revert hp
          dsimp only
          split
          next z hz =>
            intro hp
            have hrest := length_lt_of_skipBlanks hz
            obtain ⟨q, hq, rfl⟩ := Option.map_eq_some_iff.1 hp
            exact Option.map_eq_some_iff.2 ⟨q, h.members hq (by omega), rfl⟩
          next => exact id
          next => exact id
      next => exact id
    next => exact id
  next => exact id

/-- Nothing is read of an empty text. -/
theorem value_nil (fuel : Nat) : value fuel [] = none := by
  cases fuel <;> rfl

/-- A value takes a step for itself and, if it is one of several, one for its place among them, and
each value and each place has a character of its own: hence twice the length. -/
theorem reaches : ∀ f g, Reaches f g
  | 0, _ => ⟨nofun, nofun, nofun⟩
  | f + 1, 0 => by
    refine ⟨fun {s p} h hg => ?_, fun h hg => absurd hg (Nat.not_lt_zero _),
      fun h hg => absurd hg (Nat.not_lt_zero _)⟩
    obtain rfl : s = [] := List.length_eq_zero_iff.1 (by omega)
    rw [value_nil] at h
    cases h
  | f + 1, g + 1 =>
    have h := reaches f g
    ⟨h.value_succ, h.elements_succ, h.members_succ⟩

/-- A text holds a value exactly if the grammar reads it with blanks behind it, on any fuel. -/
theorem parse?_eq_some_iff {text : String} : parse? text = some j ↔
    ∃ fuel rest, value fuel text.toList = some (j, rest) ∧ skipBlanks rest = [] := by
  unfold parse?
  dsimp only
  constructor
  · intro h
    split at h
    next hread =>
      split at h
      next hrest =>
        cases h
        exact ⟨_, _, hread, hrest⟩
      next => cases h
    next => cases h
  · rintro ⟨fuel, rest, hread, hrest⟩
    rw [(reaches fuel _).value hread (by omega)]
    dsimp only
    rw [if_pos hrest]

end Json

end GpuCluster
