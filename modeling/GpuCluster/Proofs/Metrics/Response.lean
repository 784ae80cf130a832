import Mathlib
import GpuCluster.Metrics.Response
import GpuCluster.Proofs.Text.Literal
import GpuCluster.Proofs.Text.Records
import GpuCluster.Proofs.Traversal

/-!
# Which answers of a metrics service are decoded

* `Envelope.WrittenAs`, `Content.WrittenAs`, `Series.WrittenAs`, `Sample.WrittenAs` : how the parts of
  an answer are written; `Envelope.read?_eq_some_iff` and the like say that this is how they are
  read;
* `IsVector j elements` : a successful answer with a vector of these elements;
* `Verdict j r` : what becomes of an answer, stage by stage;
* `decode_exact` : an answer is decoded exactly if it is a vector of samples, one sample per element;
  any other is an error, that of the first stage that fails.
-/

namespace GpuCluster.Metrics

variable {j x : Json} {c : Content} {e : Envelope} {s : Series} {body : String}

/-! ## How the parts are written -/

def Content.fields : List String := ["resultType", "result"]

/-- The data of an answer. -/
structure Content.WrittenAs (c : Content) (j : Json) : Prop where
  form : j.HasForm fields
  resultType : j.Field fields "resultType" (.str c.resultType)
  result : j.Field fields "result" c.result

def Envelope.fields : List String := ["status", "data", "error"]

/-- An answer: data and reason may be absent or null. -/
structure Envelope.WrittenAs (e : Envelope) (j : Json) : Prop where
  form : j.HasForm fields
  status : j.Field fields "status" (.str e.status)
  data : j.OptionalField fields "data" (fun x c => Content.WrittenAs c x) e.data
  error : j.OptionalField fields "error" (fun x text => x = .str text) e.error

def Series.fields : List String := ["metric", "value"]

/-- Labels: an object of texts, or absent. -/
def LabelsOf (j : Json) (labels : Bindings String) : Prop :=
  j.Field Series.fields "metric" (.obj (labels.entries.map fun e => (e.1, .str e.2))) ∨
    ((∀ x, ¬ j.Field Series.fields "metric" x) ∧ labels = ∅)

/-- One series: its labels, and a pair of a time and the text of a number. -/
structure Series.WrittenAs (s : Series) (j : Json) : Prop where
  form : j.HasForm fields
  labels : LabelsOf j s.labels
  value : ∃ time, j.Field fields "value" (.arr [.num time, .str s.value])

/-- One series whose text is a floating-point literal. -/
structure Sample.WrittenAs (x : Sample) (j : Json) : Prop where
  form : j.HasForm Series.fields
  labels : LabelsOf j x.labels
  value : ∃ time text, j.Field Series.fields "value" (.arr [.num time, .str text]) ∧
    Decimal.IsFloat text.toList x.value

/-! ## They are read so -/

theorem Content.read?_eq_some_iff (hd : j.distinct = true) (hr : j.readable 1 = true) :
    Content.read? j = some c ↔ c.WrittenAs j := by
  have hnames : fields.Nodup := by decide
  have hresult (x : Json) (hx : j.Field fields "result" x) : x.readable outerDepth = true :=
    hx.readable hr
  unfold read?
  simp only [bind, Option.bind_eq_some_iff, pure, Option.some.injEq]
  constructor
  · rintro ⟨r, hopen, type, htype, result, hres, rfl⟩
    rw [Record.require_eq_some_iff hd hnames (by decide) hopen] at htype hres
    obtain ⟨x, hx, htext⟩ := htype
    obtain ⟨y, hy, hread⟩ := hres
    rw [if_pos (hresult y hy)] at hread
    cases hread
    rw [Json.text?_eq_some_iff.1 htext] at hx
    exact ⟨(Record.exists_open?_iff hd).1 ⟨r, hopen⟩, hx, hy⟩
  · intro h
    obtain ⟨r, hopen⟩ := (Record.exists_open?_iff hd).2 h.form
    refine ⟨r, hopen, c.resultType, ?_, c.result, ?_, rfl⟩
    · rw [Record.require_eq_some_iff hd hnames (by decide) hopen]
      exact ⟨_, h.resultType, rfl⟩
    · rw [Record.require_eq_some_iff hd hnames (by decide) hopen]
      exact ⟨_, h.result, if_pos (hresult _ h.result)⟩

theorem Envelope.read?_eq_some_iff (hd : j.distinct = true) (hr : j.readable 0 = true) :
    Envelope.read? j = some e ↔ e.WrittenAs j := by
  have hnames : fields.Nodup := by decide
  have hdata {r : Record} {o : Option Content} (hopen : Record.open? fields j = some r) :
      r.orDefault "data" none (Json.nullOr? Content.read?) = some o ↔
        j.OptionalField fields "data" (fun x c => Content.WrittenAs c x) o :=
    Record.orDefault_nullOr?_iff hd hnames (by decide) hopen rfl
      fun x hx c => Content.read?_eq_some_iff (hx.distinct hd) (hx.readable hr)
  have herror {r : Record} {o : Option String} (hopen : Record.open? fields j = some r) :
      r.orDefault "error" none (Json.nullOr? Json.text?) = some o ↔
        j.OptionalField fields "error" (fun x text => x = .str text) o :=
    Record.orDefault_nullOr?_iff hd hnames (by decide) hopen rfl
      fun x _ text => Json.text?_eq_some_iff
  unfold read?
  simp only [bind, Option.bind_eq_some_iff, pure, Option.some.injEq]
  constructor
  · rintro ⟨r, hopen, status, hstatus, data, hd', error, he, rfl⟩
    rw [Record.require_eq_some_iff hd hnames (by decide) hopen] at hstatus
    obtain ⟨x, hx, htext⟩ := hstatus
    rw [Json.text?_eq_some_iff.1 htext] at hx
    exact ⟨(Record.exists_open?_iff hd).1 ⟨r, hopen⟩, hx, (hdata hopen).1 hd',
      (herror hopen).1 he⟩
  · intro h
    obtain ⟨r, hopen⟩ := (Record.exists_open?_iff hd).2 h.form
    refine ⟨r, hopen, e.status, ?_, e.data, (hdata hopen).2 h.data, e.error,
      (herror hopen).2 h.error, rfl⟩
    rw [Record.require_eq_some_iff hd hnames (by decide) hopen]
    exact ⟨_, h.status, rfl⟩

theorem Series.point?_eq_some_iff {text : String} :
    Series.point? x = some text ↔ ∃ time, x = .arr [.num time, .str text] := by
  unfold Series.point?
  split
  next => simp [eq_comm]
  next hno =>
    refine ⟨nofun, ?_⟩
    rintro ⟨time, rfl⟩
    exact absurd rfl (hno time text)

theorem Series.read?_eq_some_iff (hd : j.distinct = true) :
    Series.read? j = some s ↔ s.WrittenAs j := by
  have hnames : fields.Nodup := by decide
  have hlabels {r : Record} {labels : Bindings String}
      (hopen : Record.open? fields j = some r) :
      r.orDefault "metric" ∅ (Json.mapOf? Json.text?) = some labels ↔ LabelsOf j labels := by
    rw [Record.orDefault_eq_some_iff hd hnames (by decide) hopen, LabelsOf]
    refine or_congr_left ⟨?_, fun hx => ⟨_, hx, ?_⟩⟩
    · rintro ⟨x, hx, hmap⟩
      rwa [(Json.mapOf?_text_eq_some_iff (hx.distinct hd)).1 hmap] at hx
    · exact (Json.mapOf?_text_eq_some_iff (hx.distinct hd)).2 rfl
  have hvalue {r : Record} {text : String} (hopen : Record.open? fields j = some r) :
      r.require "value" point? = some text ↔
        ∃ time, j.Field fields "value" (.arr [.num time, .str text]) := by
    rw [Record.require_eq_some_iff hd hnames (by decide) hopen]
    simp only [point?_eq_some_iff]
    constructor
    · rintro ⟨x, hx, time, rfl⟩
      exact ⟨time, hx⟩
    · rintro ⟨time, hx⟩
      exact ⟨_, hx, time, rfl⟩
  unfold read?
  rw [Json.withLastMembers_of_distinct hd]
  simp only [bind, Option.bind_eq_some_iff, pure, Option.some.injEq]
  constructor
  · rintro ⟨r, hopen, labels, hl, value, hv, rfl⟩
    exact ⟨(Record.exists_open?_iff hd).1 ⟨r, hopen⟩, (hlabels hopen).1 hl,
      (hvalue hopen).1 hv⟩
  · intro h
    obtain ⟨r, hopen⟩ := (Record.exists_open?_iff hd).2 h.form
    exact ⟨r, hopen, s.labels, (hlabels hopen).2 h.labels, s.value, (hvalue hopen).2 h.value, rfl⟩

/-- A vector is read element by element. -/
theorem listOf?_eq_some_iff {series : List Series} (hd : j.distinct = true) :
    j.listOf? Series.read? = some series ↔
      ∃ elements, j = .arr elements ∧
        List.Forall₂ (fun x s => Series.WrittenAs s x) elements series := by
  cases j with
  | arr elements =>
    have hread : List.Forall₂ (fun x s => Series.read? x = some s) elements series ↔
        List.Forall₂ (fun x s => Series.WrittenAs s x) elements series := by
      have hsame (x : Json) (s : Series) : (x.distinct = true ∧ Series.read? x = some s) ↔
          (x.distinct = true ∧ s.WrittenAs x) :=
        and_congr_right fun hx => Series.read?_eq_some_iff hx
      have hall := Json.distinct_arr_iff.1 hd
      rw [← and_iff_right (b := List.Forall₂ _ elements series) hall, ← List.forall₂_and_left,
        ← and_iff_right (b := List.Forall₂ (fun x s => Series.WrittenAs s x) _ _) hall,
        ← List.forall₂_and_left]
      simp only [hsame]
    show elements.mapM Series.read? = some series ↔ _
    rw [Traversal.mapM_eq_some_iff, hread]
    simp
  | null | bool _ | num _ | str _ | unpaired | obj _ => simp [Json.listOf?, Json.list?]

/-! ## Numbers -/

theorem Series.sample_eq_ok_iff {y : Sample} : s.sample = .ok y ↔
    y.labels = s.labels ∧ Decimal.IsFloat s.value.toList y.value := by
  rw [← Decimal.parseFloat_eq_ok_iff, Series.sample]
  obtain ⟨labels, value⟩ := y
  cases Decimal.parseFloat s.value with
  | ok x => simp [eq_comm]
  | error reason => simp

/-- The error of a text that is no literal. -/
def invalidNumber (text : String) : Error :=
  .invalidSampleValue text (if text = "" then .empty else .invalid)

theorem Series.sample_eq_error_iff {error : Error} : s.sample = .error error ↔
    (∀ x, ¬ Decimal.IsFloat s.value.toList x) ∧ error = invalidNumber s.value := by
  simp only [← Decimal.parseFloat_eq_ok_iff]
  rw [Series.sample, invalidNumber]
  cases h : Decimal.parseFloat s.value with
  | ok x => simp
  | error reason =>
    rw [← Decimal.parseFloat_error h]
    simp [eq_comm]

/-- A sample is a series with its number. -/
theorem Sample.writtenAs_iff {y : Sample} : y.WrittenAs j ↔
    ∃ s : Series, s.WrittenAs j ∧ s.sample = .ok y := by
  constructor
  · rintro ⟨hform, hlabels, time, text, hvalue, hfloat⟩
    exact ⟨⟨y.labels, text⟩, ⟨hform, hlabels, time, hvalue⟩,
      Series.sample_eq_ok_iff.2 ⟨rfl, hfloat⟩⟩
  · rintro ⟨s, ⟨hform, hlabels, time, hvalue⟩, hsample⟩
    obtain ⟨hsame, hfloat⟩ := Series.sample_eq_ok_iff.1 hsample
    exact ⟨hform, hsame ▸ hlabels, time, s.value, hvalue, hfloat⟩

/-! ## What becomes of an answer -/

/-- What becomes of an answer, stage by stage. -/
inductive Verdict (j : Json) : Except Error (List Sample) → Prop
  /-- The envelope comes first, whatever the status says. -/
  | malformed (h : ∀ e : Envelope, ¬ e.WrittenAs j) : Verdict j (.error .invalidResponse)
  /-- A status other than success counts before the data. -/
  | failed {e : Envelope} (h : e.WrittenAs j) (hstatus : e.status ≠ "success") :
      Verdict j (.error (.metrics (e.error.getD e.status)))
  | noData {e : Envelope} (h : e.WrittenAs j) (hstatus : e.status = "success")
      (hdata : e.data = none) : Verdict j (.error .noData)
  | otherType {e : Envelope} {c : Content} (h : e.WrittenAs j) (hstatus : e.status = "success")
      (hdata : e.data = some c) (htype : c.resultType ≠ "vector") :
      Verdict j (.error (.unexpectedResultType c.resultType))
  /-- Every element must be a series, before any number is looked at. -/
  | noVector {e : Envelope} {c : Content} (h : e.WrittenAs j) (hstatus : e.status = "success")
      (hdata : e.data = some c) (htype : c.resultType = "vector")
      (hno : ∀ elements series, c.result = .arr elements →
        ¬ List.Forall₂ (fun x s => Series.WrittenAs s x) elements series) :
      Verdict j (.error .invalidVector)
  /-- The first text that is no number names the error. -/
  | noNumber {e : Envelope} {c : Content} {elements : List Json} {front back : List Series}
      {s : Series} (h : e.WrittenAs j) (hstatus : e.status = "success") (hdata : e.data = some c)
      (htype : c.resultType = "vector") (hresult : c.result = .arr elements)
      (hseries : List.Forall₂ (fun x s => Series.WrittenAs s x) elements (front ++ s :: back))
      (hfront : ∀ s ∈ front, ∃ x, Decimal.IsFloat s.value.toList x)
      (hs : ∀ x, ¬ Decimal.IsFloat s.value.toList x) :
      Verdict j (.error (invalidNumber s.value))
  | decoded {e : Envelope} {c : Content} {elements : List Json} {samples : List Sample}
      (h : e.WrittenAs j) (hstatus : e.status = "success") (hdata : e.data = some c)
      (htype : c.resultType = "vector") (hresult : c.result = .arr elements)
      (hsamples : List.Forall₂ (fun x y => Sample.WrittenAs y x) elements samples) :
      Verdict j (.ok samples)

theorem samples_of_writtenAs (hj : Json.parse? body = some j) (hr : j.readable 0 = true)
    (hd : j.distinct = true) (he : e.WrittenAs j) : samples body = e.samples := by
  rw [samples, hj, Option.bind_some, (Envelope.read?_eq_some_iff hd hr).2 he]

theorem samples_of_malformed (hj : Json.parse? body = some j) (hr : j.readable 0 = true)
    (hd : j.distinct = true) (h : ∀ e : Envelope, ¬ e.WrittenAs j) :
    samples body = .error .invalidResponse := by
  have hnone : Envelope.read? j = none := by
    rw [Option.eq_none_iff_forall_ne_some]
    exact fun e he => h e ((Envelope.read?_eq_some_iff hd hr).1 he)
  rw [samples, hj, Option.bind_some, hnone]

theorem Envelope.samples_of_data (hstatus : e.status = "success") (hdata : e.data = some c) :
    e.samples = c.samples := by
  have hsuccess : ¬ e.status ≠ "success" := fun h => h hstatus
  rw [Envelope.samples, if_neg hsuccess, hdata]

/-- The vector of an answer has distinct names, as all of the answer has. -/
theorem Envelope.WrittenAs.distinct_result (he : e.WrittenAs j) (hdata : e.data = some c)
    (hd : j.distinct = true) : c.result.distinct = true := by
  have hfield := he.data
  rw [hdata] at hfield
  cases hfield with
  | present hx hc => exact hc.result.distinct (hx.distinct hd)

theorem Content.samples_of_none (htype : c.resultType = "vector")
    (h : c.result.listOf? Series.read? = none) : c.samples = .error .invalidVector := by
  have hvector : ¬ c.resultType ≠ "vector" := fun h => h htype
  rw [Content.samples, if_neg hvector, h]

theorem Content.samples_of_some {series : List Series} (htype : c.resultType = "vector")
    (h : c.result.listOf? Series.read? = some series) : c.samples = series.mapM Series.sample := by
  have hvector : ¬ c.resultType ≠ "vector" := fun h => h htype
  rw [Content.samples, if_neg hvector, h]

/-- What becomes of a vector. -/
theorem verdict_of_vector (hd : j.distinct = true) (he : e.WrittenAs j)
    (hstatus : e.status = "success") (hdata : e.data = some c) (htype : c.resultType = "vector") :
    Verdict j c.samples := by
  have hresult := he.distinct_result hdata hd
  cases hseries : c.result.listOf? Series.read? with
  | none =>
    rw [Content.samples_of_none htype hseries]
    refine .noVector he hstatus hdata htype fun elements series heq hall => ?_
    rw [(listOf?_eq_some_iff hresult).2 ⟨elements, heq, hall⟩] at hseries
    cases hseries
  | some series =>
    rw [Content.samples_of_some htype hseries]
    obtain ⟨elements, heq, hall⟩ := (listOf?_eq_some_iff hresult).1 hseries
    cases hsamples : series.mapM Series.sample with
    | ok samples =>
      refine .decoded he hstatus hdata htype heq ?_
      simp only [Sample.writtenAs_iff]
      exact Traversal.forall₂_comp_iff.1 ⟨series, hall, Traversal.mapM_eq_ok_iff.1 hsamples⟩
    | error error =>
      obtain ⟨front, s, back, rfl, hfront, hs⟩ := Traversal.mapM_eq_error_iff.1 hsamples
      obtain ⟨hno, rfl⟩ := Series.sample_eq_error_iff.1 hs
      refine .noNumber he hstatus hdata htype heq hall (fun s hs => ?_) hno
      obtain ⟨y, hy⟩ := hfront s hs
      exact ⟨y.value, (Series.sample_eq_ok_iff.1 hy).2⟩

/-- Every answer has a verdict. -/
theorem verdict_samples (hj : Json.parse? body = some j) (hr : j.readable 0 = true)
    (hd : j.distinct = true) : Verdict j (samples body) := by
  by_cases hmalformed : ∀ e : Envelope, ¬ e.WrittenAs j
  · rw [samples_of_malformed hj hr hd hmalformed]
    exact .malformed hmalformed
  obtain ⟨e, he⟩ := Classical.not_forall_not.1 hmalformed
  rw [samples_of_writtenAs hj hr hd he]
  by_cases hstatus : e.status = "success"
  · cases hdata : e.data with
    | none =>
      rw [Envelope.samples, if_neg (fun h => h hstatus), hdata]
      exact .noData he hstatus hdata
    | some c =>
      rw [Envelope.samples_of_data hstatus hdata]
      by_cases htype : c.resultType = "vector"
      · exact verdict_of_vector hd he hstatus hdata htype
      · rw [Content.samples, if_pos htype]
        exact .otherType he hstatus hdata htype
  · rw [Envelope.samples, if_pos hstatus]
    exact .failed he hstatus

/-- The verdict is what the decoding gives. -/
theorem Verdict.samples_eq {r : Except Error (List Sample)} (h : Verdict j r)
    (hj : Json.parse? body = some j) (hr : j.readable 0 = true) (hd : j.distinct = true) :
    samples body = r := by
  cases h with
  | malformed h => exact samples_of_malformed hj hr hd h
  | failed he hstatus =>
    rw [samples_of_writtenAs hj hr hd he, Envelope.samples, if_pos hstatus]
  | noData he hstatus hdata =>
    rw [samples_of_writtenAs hj hr hd he, Envelope.samples, if_neg (fun h => h hstatus), hdata]
  | otherType he hstatus hdata htype =>
    rw [samples_of_writtenAs hj hr hd he, Envelope.samples_of_data hstatus hdata,
      Content.samples, if_pos htype]
  | noVector he hstatus hdata htype hno =>
    rw [samples_of_writtenAs hj hr hd he, Envelope.samples_of_data hstatus hdata]
    refine Content.samples_of_none htype (Option.eq_none_iff_forall_ne_some.2 fun series h => ?_)
    obtain ⟨elements, heq, hall⟩ := (listOf?_eq_some_iff (he.distinct_result hdata hd)).1 h
    exact hno elements series heq hall
  | @noNumber e c elements front back s he hstatus hdata htype hresult hseries hfront hs =>
    have hread := (listOf?_eq_some_iff (he.distinct_result hdata hd)).2
      ⟨elements, hresult, hseries⟩
    rw [samples_of_writtenAs hj hr hd he, Envelope.samples_of_data hstatus hdata,
      Content.samples_of_some htype hread]
    refine Traversal.mapM_eq_error_iff.2 ⟨front, s, back, rfl, fun t ht => ?_,
      Series.sample_eq_error_iff.2 ⟨hs, rfl⟩⟩
    obtain ⟨x, hx⟩ := hfront t ht
    exact ⟨⟨t.labels, x⟩, Series.sample_eq_ok_iff.2 ⟨rfl, hx⟩⟩
  | @decoded e c elements samples he hstatus hdata htype hresult hsamples =>
    simp only [Sample.writtenAs_iff] at hsamples
    obtain ⟨series, hseries, hnumbers⟩ := Traversal.forall₂_comp_iff.2 hsamples
    have hread := (listOf?_eq_some_iff (he.distinct_result hdata hd)).2
      ⟨elements, hresult, hseries⟩
    rw [samples_of_writtenAs hj hr hd he, Envelope.samples_of_data hstatus hdata,
      Content.samples_of_some htype hread]
    exact Traversal.mapM_eq_ok_iff.2 hnumbers

/-! ## What is decoded -/

/-- A successful answer with a vector of these elements. -/
structure IsVector (j : Json) (elements : List Json) : Prop where
  form : j.HasForm Envelope.fields
  status : j.Field Envelope.fields "status" (.str "success")
  error : ∃ reason, j.OptionalField Envelope.fields "error" (fun x text => x = .str text) reason
  data : ∃ d, j.Field Envelope.fields "data" d ∧ Content.WrittenAs ⟨"vector", .arr elements⟩ d

theorem isVector_iff {elements : List Json} : IsVector j elements ↔
    ∃ e c, Envelope.WrittenAs e j ∧ e.status = "success" ∧ e.data = some c ∧
      c.resultType = "vector" ∧ c.result = .arr elements := by
  constructor
  · rintro ⟨hform, hstatus, ⟨reason, herror⟩, d, hd, hc⟩
    exact ⟨⟨"success", some ⟨"vector", .arr elements⟩, reason⟩, _,
      ⟨hform, hstatus, .present hd hc, herror⟩, rfl, rfl, rfl, rfl⟩
  · rintro ⟨⟨status, data, reason⟩, ⟨type, result⟩, ⟨hform, hstatus, hdata, herror⟩, rfl, rfl, rfl,
      rfl⟩
    refine ⟨hform, hstatus, ⟨reason, herror⟩, ?_⟩
    cases hdata with
    | present hd hc => exact ⟨_, hd, hc⟩

theorem Verdict.ok_iff {xs : List Sample} : Verdict j (.ok xs) ↔
    ∃ elements, IsVector j elements ∧
      List.Forall₂ (fun x y => Sample.WrittenAs y x) elements xs := by
  constructor
  · intro h
    cases h with
    | decoded he hstatus hdata htype hresult hsamples =>
      exact ⟨_, isVector_iff.2 ⟨_, _, he, hstatus, hdata, htype, hresult⟩, hsamples⟩
  · rintro ⟨elements, hvector, hsamples⟩
    obtain ⟨e, c, he, hstatus, hdata, htype, hresult⟩ := isVector_iff.1 hvector
    exact .decoded he hstatus hdata htype hresult hsamples

theorem Verdict.error_eq_metrics {error : Error} (h : Verdict j (.error error)) :
    ∃ text, error = .metrics text := by
  cases h with
  | malformed _ | failed _ _ | noData _ _ _ | otherType _ _ _ _ | noVector _ _ _ _ _
  | noNumber _ _ _ _ _ _ _ _ => exact ⟨_, rfl⟩

/-- An answer that is a value with distinct names is decoded exactly if it is successful, has a
vector, and each element of it is a series with the text of a number. Then there is one sample per
element, in order, with its labels and its number. In every other case there is an error of the
metrics service, that of the first stage that fails. -/
theorem decode_exact (hj : Json.parse? body = some j) (hr : j.readable 0 = true)
    (hd : j.distinct = true) :
    (∀ xs, samples body = .ok xs ↔ ∃ elements, IsVector j elements ∧
      List.Forall₂ (fun x y => Sample.WrittenAs y x) elements xs) ∧
    (∀ error, samples body = .error error → ∃ text, error = .metrics text) ∧
    ∀ r, samples body = r ↔ Verdict j r := by
  have hverdict (r : Except Error (List Sample)) : samples body = r ↔ Verdict j r :=
    ⟨fun h => h ▸ verdict_samples hj hr hd, fun h => h.samples_eq hj hr hd⟩
  exact ⟨fun xs => (hverdict _).trans Verdict.ok_iff,
    fun error h => ((hverdict _).1 h).error_eq_metrics, hverdict⟩

/-- An answer with one series and a reason, whatever its status. Data and series are arrays. -/
def bodyOf (status : String) : String :=
  "\x7b\"status\":\"" ++ status ++ "\",\"error\":\"full\",\"data\":[\"vector\"," ++
    "[[\x7b\"pod\":\"a\"\x7d,[1,\"0.5\"]]]]\x7d"

def oneSeries : Json :=
  .arr [.obj [("pod", .str "a")], .arr [.num ⟨false, 1, 0, true⟩, .str "0.5"]]

def answerOf (status : String) : Json :=
  .obj [("status", .str status), ("error", .str "full"),
    ("data", .arr [.str "vector", .arr [oneSeries]])]

/-- With success the series is decoded, reason or not; with any other status the reason counts and
not the series. -/
theorem decode_exact_status :
    ((Json.parse? (bodyOf "success") = some (answerOf "success") ∧
        (answerOf "success").readable 0 = true ∧ (answerOf "success").distinct = true) ∧
      samples (bodyOf "success") = .ok [⟨⟨[("pod", "a")]⟩, 0.5⟩]) ∧
    ((Json.parse? (bodyOf "error") = some (answerOf "error") ∧
        (answerOf "error").readable 0 = true ∧ (answerOf "error").distinct = true) ∧
      samples (bodyOf "error") = .error (.metrics "full")) := by
  have hgood : Json.parse? (bodyOf "success") = some (answerOf "success") := by cbv
  have hbad : Json.parse? (bodyOf "error") = some (answerOf "error") := by cbv
  have hread : (answerOf "success").readable 0 = true ∧ (answerOf "error").readable 0 = true := by
    decide +kernel
  have hdistinct : (answerOf "success").distinct = true ∧ (answerOf "error").distinct = true := by
    decide +kernel
  have hhalf : Decimal.IsFloat "0.5".toList 0.5 := by
    have hdigits : Decimal.Digits ['0'] ∧ Decimal.Digits ['5'] := by decide
    exact .plain (.numeral (.intro hdigits.1 (.point hdigits.2) .none (List.cons_ne_nil _ _)))
  have hcontent : Content.WrittenAs ⟨"vector", .arr [oneSeries]⟩
      (.arr [.str "vector", .arr [oneSeries]]) :=
    ⟨Nat.le_refl 2, .element (i := 0) rfl rfl, .element (i := 1) rfl rfl⟩
  refine ⟨⟨⟨hgood, hread.1, hdistinct.1⟩, ?_⟩, ⟨hbad, hread.2, hdistinct.2⟩, ?_⟩
  · refine ((decode_exact hgood hread.1 hdistinct.1).1 _).2 ⟨[oneSeries], ?_, .cons ?_ .nil⟩
    · exact ⟨trivial, .member (by simp),
        ⟨some "full", .present (x := .str "full") (.member (by simp)) rfl⟩, _,
        .member (by simp), hcontent⟩
    · exact ⟨Nat.le_refl 2, .inl (.element (i := 0) rfl rfl), ⟨false, 1, 0, true⟩, "0.5",
        .element (i := 1) rfl rfl, hhalf⟩
  · refine ((decode_exact hbad hread.2 hdistinct.2).2.2 _).2 ?_
    exact .failed (e := ⟨"error", some ⟨"vector", .arr [oneSeries]⟩, some "full"⟩)
      ⟨trivial, .member (by simp), .present (.member (by simp)) hcontent,
        .present (x := .str "full") (.member (by simp)) rfl⟩ (by decide)

end GpuCluster.Metrics
