import Mathlib.Data.List.TakeWhile
import Mathlib.Logic.Relation
import GpuCluster.Proofs.Executor.Tracking

/-!
# What is kept of the output

* `Output.Cut` : a stream and its lines; `Output.cut_iff`;
* `Output.texts`, `Output.kept`, `Output.lost` : the lines that are texts, those before the first
  line that is none, and those behind it;
* `Output.kept_eq_texts_iff` : nothing is lost exactly if no text stands behind a line that is none;
  `Output.unbroken_encode` : this is so of a stream that is a text as a whole;
* `Output.Interleave` : lines of two streams, each in order, in one log;
* `Process.Logged` : the log of a process holds the lines collected so far of what is kept of its
  streams; `Logged.collect`;
* `Process.Step` : calls for any job, and processes that write and end; `Step.logged`;
* `Process.logs_of_ended` : what the logs of a job hold, and what they hold of a stream of which
  nothing is left to be collected.
-/

namespace GpuCluster

namespace Output

variable {line rest bytes : List UInt8} {ls others : List (List UInt8)}
  {text : String}

/-! ## Where a stream is cut -/

/-- A finished line without the carriage return of its end. -/
def chomp (line : List UInt8) : List UInt8 :=
  if line.getLast? = some 13 then line.dropLast else line

theorem reverse_dropReturn (line : List UInt8) :
    (lines.dropReturn line.reverse).reverse = chomp line := by
  rcases List.eq_nil_or_concat line with rfl | ⟨front, b, rfl⟩
  · rfl
  · rw [chomp, List.concat_eq_append, List.getLast?_concat, List.dropLast_concat,
      List.reverse_append, List.reverse_singleton, List.singleton_append, lines.dropReturn.eq_def]
    by_cases hb : b = 13
    · simp [hb]
    · simp [hb]

theorem go_append (h : 10 ∉ line) (acc rest : List UInt8) :
    lines.go acc (line ++ 10 :: rest) = chomp (acc.reverse ++ line) :: lines rest := by
  induction line generalizing acc with
  | nil => rw [List.append_nil, ← reverse_dropReturn, List.reverse_reverse]; rfl
  | cons b line ih =>
    obtain ⟨hb, hline⟩ := not_or.1 (List.mem_cons.not.1 h)
    rw [List.cons_append, lines.go, if_neg (Ne.symm hb), ih hline, List.reverse_cons,
      List.append_assoc, List.singleton_append]

theorem go_of_not_mem (h : 10 ∉ line) (acc : List UInt8) :
    lines.go acc line = if acc.reverse ++ line = [] then [] else [acc.reverse ++ line] := by
  induction line generalizing acc with
  | nil => simp [lines.go]
  | cons b line ih =>
    obtain ⟨hb, hline⟩ := not_or.1 (List.mem_cons.not.1 h)
    rw [lines.go, if_neg (Ne.symm hb), ih hline, List.reverse_cons, List.append_assoc,
      List.singleton_append]

/-- A finished line comes first. -/
theorem lines_append (h : 10 ∉ line) (rest : List UInt8) :
    lines (line ++ 10 :: rest) = chomp line :: lines rest := go_append h [] rest

/-- What is left without a line end is a line as it is. -/
theorem lines_of_not_mem (h : 10 ∉ line) : lines line = if line = [] then [] else [line] :=
  go_of_not_mem h []

/-- A stream and its lines. A line ends at a newline, and the last one may lack it. -/
inductive Cut : List UInt8 → List (List UInt8) → Prop
  | nil : Cut [] []
  | unfinished {line : List UInt8} (h : 10 ∉ line) (hne : line ≠ []) : Cut line [line]
  | finished {line rest : List UInt8} {ls : List (List UInt8)} (h : 10 ∉ line)
      (hrest : Cut rest ls) : Cut (line ++ 10 :: rest) (chomp line :: ls)

theorem Cut.lines_eq (h : Cut bytes ls) : lines bytes = ls := by
  induction h with
  | nil => rfl
  | unfinished h hne => rw [lines_of_not_mem h, if_neg hne]
  | finished h _ ih => rw [lines_append h, ih]

theorem cut_lines (bytes : List UInt8) : Cut bytes (lines bytes) := by
  induction hn : bytes.length using Nat.strong_induction_on generalizing bytes with
  | _ n ih =>
    by_cases h : 10 ∈ bytes
    · obtain ⟨line, rest, rfl, hline⟩ := List.eq_append_cons_of_mem h
      have hrest : rest.length < n := by
        rw [← hn, List.length_append, List.length_cons]
        omega
      rw [lines_append hline]
      exact .finished hline (ih _ hrest rest rfl)
    · rw [lines_of_not_mem h]
      split
      next hnil => exact hnil ▸ .nil
      next hne => exact .unfinished h hne

/-- Every stream is cut in one way. -/
theorem cut_iff : Cut bytes ls ↔ lines bytes = ls :=
  ⟨Cut.lines_eq, fun h => h ▸ cut_lines bytes⟩

/-! ## What is kept, and what is lost -/

def isText (line : List UInt8) : Bool := (textOf? line).isSome

/-- The lines that are texts. -/
def texts (ls : List (List UInt8)) : List String := ls.filterMap textOf?

/-- The lines before the first one that is no text. -/
def kept (ls : List (List UInt8)) : List String := texts (ls.takeWhile isText)

/-- The texts behind the first line that is none. -/
def lost (ls : List (List UInt8)) : List String := texts (ls.dropWhile isText)

/-- No text stands behind a line that is none. -/
def Unbroken (ls : List (List UInt8)) : Prop :=
  ls.Pairwise fun a b => isText b = true → isText a = true

instance (ls : List (List UInt8)) : Decidable (Unbroken ls) :=
  inferInstanceAs (Decidable (List.Pairwise _ _))

/-- Lines with a newline behind each. -/
def ended (ts : List String) : String := String.join (ts.map (· ++ "\n"))

theorem ended_append (ts us : List String) : ended (ts ++ us) = ended ts ++ ended us := by
  rw [ended, List.map_append, String.join_append]
  rfl

theorem texts_eq (ls : List (List UInt8)) : texts ls = kept ls ++ lost ls := by
  rw [kept, lost, texts, texts, texts, ← List.filterMap_append, List.takeWhile_append_dropWhile]

theorem kept_cons_of_text {line : List UInt8} (h : textOf? line = some text) :
    kept (line :: others) = text :: kept others := by
  have hline : isText line = true := by rw [isText, h]; rfl
  rw [kept, List.takeWhile_cons_of_pos hline, texts, List.filterMap_cons_some h]
  rfl

theorem kept_cons_of_none {line : List UInt8} (h : textOf? line = none) :
    kept (line :: others) = [] := by
  have hline : ¬ isText line = true := by simp [isText, h]
  rw [kept, List.takeWhile_cons_of_neg hline]
  rfl

theorem lost_eq_nil_iff (ls : List (List UInt8)) : lost ls = [] ↔ Unbroken ls := by
  rw [lost, texts, Unbroken]
  induction ls with
  | nil => simp
  | cons line rest ih =>
    rw [List.pairwise_cons]
    by_cases h : isText line = true
    · rw [List.dropWhile_cons_of_pos h, ih]
      simp [h]
    · rw [List.dropWhile_cons_of_neg h, List.filterMap_eq_nil_iff]
      constructor
      · intro hnone
        have hrest : ∀ l ∈ rest, ¬ isText l = true := by
          intro l hl
          rw [isText, hnone l (List.mem_cons_of_mem _ hl)]
          nofun
        exact ⟨fun b hb ht => absurd ht (hrest b hb),
          List.pairwise_of_forall_mem_list fun a _ b hb ht => absurd ht (hrest b hb)⟩
      · rintro ⟨hfirst, -⟩ l hl
        refine Option.not_isSome_iff_eq_none.1 fun ht => h ?_
        rcases List.mem_cons.1 hl with rfl | hl
        · exact ht
        · exact hfirst l hl ht

/-- Every text is kept exactly if none stands behind a line that is none. -/
theorem kept_eq_texts_iff (ls : List (List UInt8)) : kept ls = texts ls ↔ Unbroken ls := by
  rw [texts_eq, ← lost_eq_nil_iff]
  exact List.self_eq_append_right

/-- Lines of two streams, each in order, in one log. -/
inductive Interleave : List String → List String → List String → Prop
  | nil : Interleave [] [] []
  | left {ts us ls : List String} {text : String} (h : Interleave ts us ls) :
      Interleave (ts ++ [text]) us (ls ++ [text])
  | right {ts us ls : List String} {text : String} (h : Interleave ts us ls) :
      Interleave ts (us ++ [text]) (ls ++ [text])

/-- A log with nothing of the second stream is the first. -/
theorem Interleave.eq_left {ts us ls : List String} (h : Interleave ts us ls) (hus : us = []) :
    ls = ts := by
  induction h with
  | nil => rfl
  | left _ ih => rw [ih hus]
  | right _ _ => exact absurd hus (List.append_ne_nil_of_right_ne_nil _ (List.cons_ne_nil _ _))

/-! ## Streams that are texts -/

/-- The bytes of some characters. -/
def encode (cs : List Char) : List UInt8 := cs.flatMap String.utf8EncodeChar

theorem textOf?_eq_some_iff : textOf? bytes = some text ↔ bytes = encode text.toList := by
  have hbytes : text.toByteArray = (encode text.toList).toByteArray :=
    String.utf8Encode_toList.symm
  have harray : (⟨bytes.toArray⟩ : ByteArray) = bytes.toByteArray := by
    rw [← List.data_toByteArray]
  rw [textOf?, String.fromUTF8?, harray]
  constructor
  · intro h
    split at h
    next hvalid =>
      rw [← Option.some.inj h] at hbytes ⊢
      exact List.toByteArray_inj.1 hbytes
    next => cases h
  · rintro rfl
    have hvalid : (encode text.toList).toByteArray.IsValidUTF8 := .intro text.toList rfl
    rw [dif_pos hvalid]
    exact congrArg some (String.toByteArray_inj.1 hbytes.symm)

theorem isText_encode (cs : List Char) : isText (encode cs) = true := by
  have h : textOf? (encode cs) = some (String.ofList cs) := by
    rw [textOf?_eq_some_iff, String.toList_ofList]
  rw [isText, h]
  rfl

/-- A byte below 128 stands for a character alone. -/
theorem encodeChar_of_mem {b : UInt8} {c : Char} (h : b ∈ String.utf8EncodeChar c)
    (hb : b.toNat < 128) : String.utf8EncodeChar c = [b] ∧ c.toNat = b.toNat := by
  have hhigh {n : Nat} (hn : 128 ≤ n) (hlt : n < 256) : b ≠ UInt8.ofNat n := by
    rintro rfl
    rw [UInt8.toNat_ofNat_of_lt' hlt] at hb
    omega
  revert h
  fun_cases String.utf8EncodeChar c with
  | case1 v hv =>
    intro h
    obtain rfl := List.mem_singleton.1 h
    exact ⟨rfl, (UInt8.toNat_ofNat_of_lt' (show v < 256 by omega)).symm⟩
  | case2 v =>
    intro h
    simp only [List.mem_cons, List.not_mem_nil, or_false] at h
    rcases h with h | h
    · exact absurd h (hhigh (by omega) (by omega))
    · exact absurd h (hhigh (by omega) (by omega))
  | case3 v =>
    intro h
    simp only [List.mem_cons, List.not_mem_nil, or_false] at h
    rcases h with h | h | h
    · exact absurd h (hhigh (by omega) (by omega))
    · exact absurd h (hhigh (by omega) (by omega))
    · exact absurd h (hhigh (by omega) (by omega))
  | case4 v =>
    intro h
    simp only [List.mem_cons, List.not_mem_nil, or_false] at h
    rcases h with h | h | h | h
    · exact absurd h (hhigh (by omega) (by omega))
    · exact absurd h (hhigh (by omega) (by omega))
    · exact absurd h (hhigh (by omega) (by omega))
    · exact absurd h (hhigh (by omega) (by omega))

theorem newline_of_mem_encode {cs : List Char} (h : 10 ∈ encode cs) : '\n' ∈ cs := by
  obtain ⟨c, hc, hmem⟩ := List.mem_flatMap.1 h
  have hcode := (encodeChar_of_mem hmem (by decide)).2
  have hnewline : c = '\n' := Char.toNat_inj.1 hcode
  rwa [← hnewline]

/-- Without the carriage return of its end a text is still a text. -/
theorem isText_chomp_encode (cs : List Char) : isText (chomp (encode cs)) = true := by
  unfold chomp
  split
  next h =>
    rcases List.eq_nil_or_concat cs with rfl | ⟨front, c, rfl⟩
    · exact isText_encode []
    · rw [List.concat_eq_append, encode, List.flatMap_append, List.flatMap_singleton] at h ⊢
      have hlast : (String.utf8EncodeChar c).getLast? = some 13 := by
        rwa [List.getLast?_append, List.getLast?_eq_some_getLast String.utf8EncodeChar_ne_nil,
          Option.some_or, ← List.getLast?_eq_some_getLast] at h
      rw [(encodeChar_of_mem (List.mem_of_getLast? hlast) (by decide)).1, List.dropLast_concat]
      exact isText_encode front
  next => exact isText_encode cs

/-- Every line of a text is a text. -/
theorem isText_of_mem_lines_encode (cs : List Char) :
    ∀ line ∈ lines (encode cs), isText line = true := by
  induction hn : cs.length using Nat.strong_induction_on generalizing cs with
  | _ n ih =>
    by_cases h : '\n' ∈ cs
    · obtain ⟨front, back, rfl, hfront⟩ := List.eq_append_cons_of_mem h
      have hsplit : encode (front ++ '\n' :: back) = encode front ++ 10 :: encode back := by
        rw [encode, List.flatMap_append, List.flatMap_cons]
        rfl
      rw [hsplit, lines_append fun hmem => hfront (newline_of_mem_encode hmem)]
      have hback : back.length < n := by
        rw [← hn, List.length_append, List.length_cons]
        omega
      exact List.forall_mem_cons.2 ⟨isText_chomp_encode front, ih _ hback back rfl⟩
    · rw [lines_of_not_mem fun hmem => h (newline_of_mem_encode hmem)]
      split
      next => exact fun line hline => nomatch hline
      next => exact List.forall_mem_singleton.2 (isText_encode cs)

/-- A stream that is a text as a whole is kept as a whole. -/
theorem unbroken_encode {cs : List Char} (h : Cut (encode cs) ls) : Unbroken ls := by
  rw [← h.lines_eq]
  exact List.pairwise_of_forall_mem_list fun a ha _ _ _ => isText_of_mem_lines_encode cs a ha

end Output

namespace Process

variable {m : Machine} {s : Settings} {t u : Table} {id i : JobId} {j : Job} {p : Process}

/-! ## A launched process in the table -/

theorem Table.find?_insert_self (h : t.contains i = false) : (t.insert i p).find? i = some p := by
  have hnone : t.find? i = none := Option.isSome_eq_false_iff.1 h |> Option.isNone_iff_eq_none.1
  rw [Table.find?] at hnone ⊢
  rw [Table.insert, List.find?_append, Option.map_or, hnone, Option.none_or]
  simp

/-- A job that is tracked twice is looked up where it was tracked first. -/
theorem Table.find?_insert_of_some {q : Process} (h : t.find? id = some q) :
    (t.insert i p).find? id = some q := by
  rw [Table.find?] at h ⊢
  rw [Table.insert, List.find?_append, Option.map_or, h, Option.some_or]

theorem Table.find?_erase (h : i ≠ id) : (t.erase i).find? id = t.find? id := by
  rw [Table.find?, Table.find?, Table.erase, List.find?_filter]
  refine congrArg (fun p => Option.map _ (t.entries.find? p)) (funext fun e => ?_)
  by_cases he : e.1 = id
  · simp [he, Ne.symm h]
  · simp [he]

theorem Table.find?_map {f : JobId × Process → JobId × Process} (hf : ∀ e, (f e).1 = e.1)
    (h : t.find? id = some p) : (⟨t.entries.map f⟩ : Table).find? id = some (f (id, p)).2 := by
  obtain ⟨e, he, rfl⟩ := Option.map_eq_some_iff.1 h
  have hid : e.1 = id := by simpa using List.find?_some he
  have hsame : ((fun e : JobId × Process => e.1 == id) ∘ f) = fun e => e.1 == id :=
    funext fun e => congrArg (· == id) (hf e)
  rw [Table.find?, List.find?_map, hsame, he, ← hid]
  rfl

theorem Table.find?_alter {f : Process → Process} (h : t.find? id = some p) :
    (t.alter i f).find? id = some (if id = i then f p else p) := by
  refine (Table.find?_map (fun e => ?_) h).trans ?_
  · split <;> rfl
  · by_cases hid : id = i
    · simp [hid]
    · simp [hid]

/-! ## The log of a process -/

open Output (Interleave ended kept)

variable {out err : List (List UInt8)} {stream : Stream}

@[simp] theorem unread_leave (stream other : Stream) (rest : List (List UInt8)) (p : Process) :
    (p.leave stream rest).unread other = if other = stream then rest else p.unread other := rfl

/-- The log holds the lines that have been collected so far of what is kept of both streams. -/
def Logged (out err : List (List UInt8)) (p : Process) : Prop :=
  ∃ fromOut fromErr ls, p.log = ended ls ∧ Interleave fromOut fromErr ls ∧
    fromOut ++ kept (p.unread .output) = kept out ∧ fromErr ++ kept (p.unread .error) = kept err

theorem logged_start (o : Outcome) :
    Logged (Output.lines o.standardOutput) (Output.lines o.standardError) (.start o) :=
  ⟨[], [], [], rfl, .nil, rfl, rfl⟩

theorem Logged.collect (h : Logged out err p) (stream : Stream) :
    Logged out err (p.collect stream) := by
  obtain ⟨fromOut, fromErr, ls, hlog, hboth, hout, herr⟩ := h
  unfold Process.collect
  split
  next => exact ⟨fromOut, fromErr, ls, hlog, hboth, hout, herr⟩
  next line rest hunread =>
    split
    next text htext =>
      have hlog' : p.log ++ text ++ "\n" = ended (ls ++ [text]) := by
        rw [hlog, Output.ended_append, String.append_assoc]
        simp [ended]
      cases stream with
      | output =>
        rw [hunread, Output.kept_cons_of_text htext, List.append_cons] at hout
        exact ⟨fromOut ++ [text], fromErr, ls ++ [text], hlog', hboth.left, hout, herr⟩
      | error =>
        rw [hunread, Output.kept_cons_of_text htext, List.append_cons] at herr
        exact ⟨fromOut, fromErr ++ [text], ls ++ [text], hlog', hboth.right, hout, herr⟩
    next hnone =>
      -- What stands behind the line is not kept, so nothing of it is missing.
      cases stream with
      | output =>
        rw [hunread, Output.kept_cons_of_none hnone] at hout
        exact ⟨fromOut, fromErr, ls, hlog, hboth, hout, herr⟩
      | error =>
        rw [hunread, Output.kept_cons_of_none hnone] at herr
        exact ⟨fromOut, fromErr, ls, hlog, hboth, hout, herr⟩

theorem Logged.drain (h : Logged out err p) (stream : Stream) :
    Logged out err (p.drain stream) := by
  unfold Process.drain
  induction (p.unread stream).length with
  | zero => exact h
  | succ n ih => exact ih.collect stream

theorem Logged.finish (h : Logged out err p) : Logged out err p.finish := by
  unfold Process.finish
  split
  next => exact h
  next => exact h

theorem Logged.settle (h : Logged out err p) : Logged out err p.settle := by
  unfold Process.settle
  split
  next => exact h
  next => exact ((h.drain .output).drain .error).finish

/-- A call for any job, or processes that write and end. The job itself is neither stopped nor
forgotten. -/
inductive Step (s : Settings) (id : JobId) (t : Table) : Table → Prop
  | launch {m : Machine} {j : Job} {commandLine : List String} {answer : Except Error Unit}
      {u : Table} (called : Action.attempt (launch m s j commandLine) t = .ok answer u) :
      Step s id t u
  | cancel {m : Machine} {i : JobId} {answer : Except Error Unit} {u : Table} (other : i ≠ id)
      (called : Action.attempt ((executor m s).cancel i) t = .ok answer u) : Step s id t u
  | status {m : Machine} {i : JobId} {answer : Except Error JobStatus} {u : Table}
      (called : Action.attempt ((executor m s).status i) t = .ok answer u) : Step s id t u
  | logs {m : Machine} {i : JobId} {answer : Except Error String} {u : Table}
      (called : Action.attempt ((executor m s).logs i) t = .ok answer u) : Step s id t u
  | release {m : Machine} {i : JobId} {answer : Except Error Unit} {u : Table} (other : i ≠ id)
      (called : Action.attempt ((executor m s).release i) t = .ok answer u) : Step s id t u
  | collect (i : JobId) (stream : Stream) : Step s id t (t.alter i (·.collect stream))
  | finish (i : JobId) : Step s id t (t.alter i .finish)
  | settle (i : JobId) : Step s id t (t.settle i)
  | settleAll : Step s id t t.settleAll

/-- What happens to the process of a job, if anything does. -/
theorem logged_alter {f : Process → Process} (hf : Logged out err p → Logged out err (f p))
    (hp : t.find? id = some p) (hlogged : Logged out err p) :
    ∃ q, (t.alter i f).find? id = some q ∧ Logged out err q := by
  refine ⟨_, Table.find?_alter hp, ?_⟩
  split
  next => exact hf hlogged
  next => exact hlogged

/-- Another job is stopped: its process goes, or it was not there. -/
theorem cancel_cases {answer : Except Error Unit}
    (h : Action.attempt ((executor m s).cancel i) t = .ok answer u) : u = t ∨ u = t.erase i := by
  rcases tracked_outcome i t with ⟨-, htracked⟩ | ⟨q, -, -, htracked⟩
  · have hrun : (executor m s).cancel i t = .error (.error (.jobNotFound i.toText)) t :=
      Action.bind_of_error htracked
    rw [Action.attempt_of_error hrun] at h
    cases h
    exact .inl rfl
  · have herased : Action.after ((executor m s).cancel i) t = t.erase i := by
      cases hk : m.killError? i q with
      | none =>
        refine Action.after_of_ok (a := ⟨⟩) ((Action.bind_of_ok htracked).trans ?_)
        simp only [hk]
        rfl
      | some reason =>
        refine Action.after_of_error (e := .error (.killFailed i reason))
          ((Action.bind_of_ok htracked).trans ?_)
        simp only [hk]
        rfl
    refine .inr ?_
    rcases Action.attempt_ok h with ⟨_, -, hx⟩ | ⟨e, -, hx⟩
    · rw [← herased, Action.after_of_ok hx]
    · rw [← herased, Action.after_of_error hx]

theorem Step.logged (h : Step s id t u) (hp : t.find? id = some p) (hlogged : Logged out err p) :
    ∃ q, u.find? id = some q ∧ Logged out err q := by
  cases h with
  | @launch m j commandLine answer _ called =>
    rcases launch_outcome m s j commandLine t with ⟨q, hrun⟩ | ⟨e, hrun, -⟩
    · rw [Action.attempt_of_ok hrun] at called
      cases called
      exact ⟨p, Table.find?_insert_of_some hp, hlogged⟩
    · rw [Action.attempt_of_error hrun] at called
      cases called
      exact ⟨p, hp, hlogged⟩
  | @cancel m i answer _ other called =>
    rcases cancel_cases called with rfl | rfl
    · exact ⟨p, hp, hlogged⟩
    · exact ⟨p, (Table.find?_erase other).trans hp, hlogged⟩
  | @status m i answer _ called =>
    obtain ⟨rfl, -⟩ := (executor_tracks m s).status called
    exact ⟨p, hp, hlogged⟩
  | @logs m i answer _ called =>
    rcases tracked_outcome i t with ⟨-, htracked⟩ | ⟨q, -, -, htracked⟩
    · have hrun : (executor m s).logs i t = .error (.error (.jobNotFound i.toText)) t :=
        Action.bind_of_error htracked
      rw [Action.attempt_of_error hrun] at called
      cases called
      exact ⟨p, hp, hlogged⟩
    · have hrun : (executor m s).logs i t = .ok q.log t := Action.bind_of_ok htracked
      rw [Action.attempt_of_ok hrun] at called
      cases called
      exact ⟨p, hp, hlogged⟩
  | @release m i answer _ other called =>
    have hrun : (executor m s).release i t = .ok ⟨⟩ (t.erase i) := rfl
    rw [Action.attempt_of_ok hrun] at called
    cases called
    exact ⟨p, (Table.find?_erase other).trans hp, hlogged⟩
  | collect i stream => exact logged_alter (fun h => h.collect stream) hp hlogged
  | finish i => exact logged_alter Logged.finish hp hlogged
  | settle i => exact logged_alter Logged.settle hp hlogged
  | settleAll => exact ⟨_, Table.find?_map (fun _ => rfl) hp, hlogged.settle⟩

theorem logged_of_steps (h : Relation.ReflTransGen (Step s id) t u) (hp : t.find? id = some p)
    (hlogged : Logged out err p) : ∃ q, u.find? id = some q ∧ Logged out err q := by
  induction h with
  | refl => exact ⟨p, hp, hlogged⟩
  | tail _ last ih =>
    obtain ⟨q, hq, hkept⟩ := ih
    exact last.logged hq hkept

/-- A job that is not tracked is launched. From then on, whatever is called for other jobs, its logs
hold lines of both streams, each with a newline, and those of one stream are in order: the first of
those that stand before the first line that is no text, and all of these once nothing of the stream
is left to be collected. This is every line that is a text exactly if in the stream none stands
behind a line that is no text. -/
theorem logs_of_ended {commandLine : List String} {l : Launch} {o : Outcome}
    (hfresh : t.contains j.id = false)
    (hl : Launch.forJob s.environment s.directory j commandLine = .ok l) (ho : m.start l = .ok o) :
    ∃ u out err, launch m s j commandLine t = .ok () u ∧
      Output.Cut o.standardOutput out ∧ Output.Cut o.standardError err ∧
      (Output.texts out = kept out ++ Output.lost out ∧ (kept out = Output.texts out ↔
        Output.Unbroken out)) ∧
      (Output.texts err = kept err ++ Output.lost err ∧ (kept err = Output.texts err ↔
        Output.Unbroken err)) ∧
      ∀ v, Relation.ReflTransGen (Step s j.id) u v → ∃ p fromOut fromErr ls,
        v.find? j.id = some p ∧ (executor m s).logs j.id v = .ok (ended ls) v ∧
        Interleave fromOut fromErr ls ∧ fromOut <+: kept out ∧ fromErr <+: kept err ∧
        (p.unread .output = [] → fromOut = kept out) ∧
        (p.unread .error = [] → fromErr = kept err) := by
  have hlaunch : launch m s j commandLine t = .ok () (t.insert j.id (.start o)) := by
    rw [launch_of_forJob hfresh hl, ho]
  refine ⟨_, _, _, hlaunch, Output.cut_lines _, Output.cut_lines _,
    ⟨Output.texts_eq _, Output.kept_eq_texts_iff _⟩,
    ⟨Output.texts_eq _, Output.kept_eq_texts_iff _⟩, fun v hsteps => ?_⟩
  obtain ⟨p, hp, fromOut, fromErr, ls, hlog, hboth, hout, herr⟩ :=
    logged_of_steps hsteps (Table.find?_insert_self hfresh) (logged_start o)
  have htracked : tracked j.id v = .ok p v := by simp only [tracked, hp]
  refine ⟨p, fromOut, fromErr, ls, hp, hlog ▸ Action.bind_of_ok htracked, hboth, ⟨_, hout⟩,
    ⟨_, herr⟩, fun hdrained => ?_, fun hdrained => ?_⟩
  · rw [← hout, hdrained]
    exact (List.append_nil _).symm
  · rw [← herr, hdrained]
    exact (List.append_nil _).symm

/-- A program that writes three lines, the second of which is no text. -/
def brokenOutcome : Outcome := { standardOutput := [97, 10, 255, 10, 98, 10] }

def brokenMachine : Machine where
  program? _ := some fun _ => brokenOutcome
  directoryExists _ := true

def printingJob : Job := { id := ⟨1#128⟩, command := ["print"], createdAt := ⟨0, 0⟩ }

/-- The logs hold the first line only, though the third is a text as well. -/
theorem logs_of_ended_broken : Table.empty.contains printingJob.id = false ∧
    ∃ l u out, Launch.forJob ∅ none printingJob ["print"] = .ok l ∧
      brokenMachine.start l = .ok brokenOutcome ∧
      launch brokenMachine {} printingJob ["print"] .empty = .ok () u ∧
      (executor brokenMachine {}).status printingJob.id (u.settle printingJob.id) =
        .ok .completed (u.settle printingJob.id) ∧
      Output.Cut brokenOutcome.standardOutput out ∧ Output.texts out = ["a", "b"] ∧
      (executor brokenMachine {}).logs printingJob.id (u.settle printingJob.id) =
        .ok "a\n" (u.settle printingJob.id) := by
  have hfresh : Table.empty.contains printingJob.id = false := rfl
  obtain ⟨l, hl⟩ : ∃ l, Launch.forJob ∅ none printingJob ["print"] = .ok l := ⟨_, rfl⟩
  have ho : brokenMachine.start l = .ok brokenOutcome := by
    cases hl
    decide
  obtain ⟨u, out, err, hlaunch, hout, herr, -, -, hlogs⟩ :=
    logs_of_ended (m := brokenMachine) (s := {}) hfresh hl ho
  have hrun := launch_of_forJob (m := brokenMachine) (s := {}) hfresh hl
  rw [ho, hlaunch] at hrun
  cases hrun
  obtain ⟨p, fromOut, fromErr, ls, hp, hlog, hboth, -, -, hdrained, hdrained'⟩ :=
    hlogs _ (.single (.settle printingJob.id))
  obtain rfl := Output.cut_iff.1 hout
  obtain rfl := Output.cut_iff.1 herr
  have hsettled : p = (start brokenOutcome).settle := (Option.some.inj hp).symm
  have hfirst : fromOut = ["a"] := by
    refine (hdrained ?_).trans (by decide +kernel)
    rw [hsettled]
    decide +kernel
  have hsecond : fromErr = [] := by
    refine (hdrained' ?_).trans (by decide +kernel)
    rw [hsettled]
    decide +kernel
  rw [hboth.eq_left hsecond, hfirst] at hlog
  exact ⟨hfresh, l, _, _, hl, ho, hlaunch, rfl, hout, by decide +kernel, hlog⟩

end Process

end GpuCluster
