import Mathlib.Data.List.Infix

/-!
# Cutting texts

* `Text.pieces mark text` : the pieces of a text between its marks; `length_pieces`, and
  `pieces_intercalate` for a text that was joined;
* `append_mark_inj` : a field that ends at its first mark can be read back, and so can the rest;
* `Text.cut? mark text` : what stands before the first occurrence of a longer mark and what behind
  it; `cut?_append_iff` says when the mark is found where it was put;
* `infix_append_cons_iff` : when a mark cannot reach across the end of a text.
-/

namespace GpuCluster.Text

/-! ## At every mark -/

/-- The pieces of a text between its marks. -/
def pieces (mark : Char) (text : String) : List String := (text.split mark).toList.map (·.copy)

variable {mark : Char} {text : String} {texts : List String}

theorem pieces_eq (mark : Char) (text : String) :
    pieces mark text = (text.toList.splitOn mark).map String.ofList :=
  String.toList_split_char

/-- A text without the mark is one piece. -/
theorem pieces_of_not_mem (h : mark ∉ text.toList) : pieces mark text = [text] := by
  rw [pieces_eq, List.splitOn_eq_singleton h, List.map_singleton, String.ofList_toList]

/-- There is one piece more than marks. -/
theorem length_pieces (mark : Char) (text : String) :
    (pieces mark text).length = text.toList.count mark + 1 := by
  rw [pieces_eq, List.length_map]
  induction text.toList with
  | nil => rfl
  | cons c rest ih =>
    rw [List.splitOn_cons_eq_if_modifyHead, List.count_cons]
    by_cases hc : c = mark
    · simp [hc, ih]
    · simp [hc, ih]

/-- The pieces of joined texts are those of each. -/
theorem pieces_intercalate (h : texts ≠ []) :
    pieces mark ((String.singleton mark).intercalate texts) = texts.flatMap (pieces mark) := by
  induction texts with
  | nil => exact absurd rfl h
  | cons first rest ih =>
    by_cases hrest : rest = []
    · simp [hrest]
    · have hpieces := ih hrest
      rw [pieces_eq, String.toList_intercalate, String.toList_singleton] at hpieces
      rw [pieces_eq, String.toList_intercalate, String.toList_singleton, List.map_cons,
        List.intercalate_cons_of_ne_nil (by simpa using hrest), List.append_assoc,
        List.singleton_append, List.splitOn_append_cons_self, List.map_append, hpieces,
        List.flatMap_cons, pieces_eq]

/-! ## At the first mark -/

/-- A field without the mark ends at the first one. -/
theorem append_mark_inj {a b s t : List Char} (ha : mark ∉ a) (hb : mark ∉ b) :
    a ++ mark :: s = b ++ mark :: t ↔ a = b ∧ s = t := by
  induction a generalizing b with
  | nil =>
    cases b with
    | nil => simp
    | cons d b => simp [(List.ne_of_not_mem_cons hb)]
  | cons c a ih =>
    cases b with
    | nil => simp [(List.ne_of_not_mem_cons ha).symm]
    | cons d b =>
      have hrest := ih (List.not_mem_of_not_mem_cons ha) (List.not_mem_of_not_mem_cons hb)
      simp [hrest, and_assoc]

/-- What stands before the first occurrence of a mark, and what behind it. -/
def cut? (mark : List Char) : List Char → Option (List Char × List Char)
  | [] => none
  | c :: rest =>
    if mark <+: c :: rest then some ([], (c :: rest).drop mark.length)
    else (cut? mark rest).map fun p => (c :: p.1, p.2)

variable {c d : Char} {m s before behind : List Char}

theorem eq_of_cut? {mark : List Char} (h : cut? mark s = some (before, behind)) :
    s = before ++ (mark ++ behind) := by
  induction s generalizing before with
  | nil => cases h
  | cons c rest ih =>
    rw [cut?] at h
    split at h
    next hfront =>
      cases h
      exact (List.prefix_iff_eq_append.1 hfront).symm
    next =>
      obtain ⟨⟨front, _⟩, hp, heq⟩ := Option.map_eq_some_iff.1 h
      cases heq
      rw [ih hp, List.cons_append]

/-- A mark does not reach from a text into what follows, if that begins with a character which the
mark lacks, and lacks a character of the mark itself. -/
theorem infix_append_cons_iff {mark : List Char} (hd : d ∉ mark) (hc : c ∈ mark)
    (hbehind : c ∉ d :: behind) : mark <:+: s ++ d :: behind ↔ mark <:+: s := by
  refine ⟨?_, fun h => h.trans (List.prefix_append ..).isInfix⟩
  rintro ⟨front, back, h⟩
  rw [List.append_assoc] at h
  rcases List.append_eq_append_iff.1 h with ⟨part, rfl, hpart⟩ | ⟨part, rfl, hpart⟩
  · rcases List.append_eq_append_iff.1 hpart with ⟨rest, rfl, -⟩ | ⟨rest, rfl, hrest⟩
    · exact ⟨front, rest, List.append_assoc ..⟩
    · cases rest with
      | nil => exact ⟨front, [], by simp⟩
      | cons e rest =>
        obtain ⟨rfl, -⟩ := List.cons.inj hrest
        exact absurd (List.mem_append_right part List.mem_cons_self) hd
  · refine absurd ?_ hbehind
    rw [hpart]
    exact List.mem_append_right part (List.mem_append_left back hc)

/-- A mark whose first character does not occur again does not overlap itself: at the front of a
text that is followed by the mark it stands inside the text. -/
theorem isPrefix_of_append (hc : c ∉ m) (hne : before ≠ [])
    (h : c :: m <+: before ++ (c :: m ++ behind)) : c :: m <+: before := by
  by_cases hlen : (c :: m).length ≤ before.length
  · exact List.prefix_of_prefix_length_le h (List.prefix_append ..) hlen
  · -- the text would end inside the mark, and the first character would stand there again
    have hfront : before <+: c :: m :=
      List.prefix_of_prefix_length_le (List.prefix_append ..) h (by omega)
    obtain ⟨part, hpart⟩ := hfront
    have hrest : part <+: c :: m ++ behind := by
      apply (List.prefix_append_right_inj before).1
      rwa [hpart]
    obtain ⟨d, b, rfl⟩ := List.exists_cons_of_ne_nil hne
    obtain ⟨rfl, hm⟩ := List.cons.inj hpart
    have hpart_ne : part ≠ [] := by
      rintro rfl
      rw [List.append_nil] at hpart
      exact hlen (by rw [hpart])
    obtain ⟨e, o, rfl⟩ := List.exists_cons_of_ne_nil hpart_ne
    obtain ⟨rfl, -⟩ := List.cons_prefix_cons.1 hrest
    exact absurd (hm ▸ List.mem_append_right b List.mem_cons_self) hc

/-- The mark is found where it was put exactly if it does not occur before. -/
theorem cut?_append_iff (hc : c ∉ m) :
    cut? (c :: m) (before ++ (c :: m ++ behind)) = some (before, behind) ↔
      ¬ c :: m <:+: before := by
  induction before with
  | nil => simp [cut?]
  | cons d before ih =>
    rw [List.infix_cons_iff, not_or, ← ih, List.cons_append, cut?]
    by_cases hfront : c :: m <+: d :: (before ++ (c :: m ++ behind))
    · have hinside := isPrefix_of_append hc (List.cons_ne_nil d before) hfront
      rw [if_pos hfront]
      simp [hinside]
    · have hnot : ¬ c :: m <+: d :: before :=
        fun h => hfront (h.trans (List.prefix_append (d :: before) _))
      rw [if_neg hfront]
      simp [hnot, Option.map_eq_some_iff, Prod.ext_iff]

end GpuCluster.Text
