import GpuCluster.Action

/-!
# How actions end and what they keep

* `Action.bind_ok`, `Action.attempt_ok`, `Action.zoom_ok`, ... : an action that ends well, taken
  apart into the actions it is made of;
* `Action.after` : the state that an action leaves, however it ends, `Action.answer` : how it ends;
* `Lens.Lawful` : a part can be read back and written over; an action on such a part is made of
  actions on it (`Action.zoom_bind`, ...);
* `Action.Keeps I x` : `x` leaves every state with `I` in a state with `I`, also when it fails;
* `Action.Reads x` : `x` changes nothing;
* `Action.Answers x` : `x` ends with an answer or reports an error.
-/

namespace GpuCluster

/-- A part is what was last written to it, and nothing else is written with it. -/
structure Lens.Lawful {σ τ : Type} (part : Lens σ τ) : Prop where
  get_set : ∀ v s, part.get (part.set v s) = v
  set_get : ∀ s, part.set (part.get s) s = s
  set_set : ∀ v w s, part.set v (part.set w s) = part.set v s

end GpuCluster

namespace GpuCluster.Action

variable {σ τ α β : Type} {s t u : σ}

/-! ## Actions that end well -/

theorem bind_ok {x : Action σ α} {f : α → Action σ β} {b : β} :
    (x >>= f) s = .ok b u ↔ ∃ a t, x s = .ok a t ∧ f a t = .ok b u := by
  change EStateM.bind x f s = .ok b u ↔ _
  unfold EStateM.bind
  cases h : x s with
  | ok a t =>
    constructor
    · exact fun hf => ⟨a, t, rfl, hf⟩
    · rintro ⟨a', t', hx, hf⟩
      cases hx
      exact hf
  | error e t => simp

theorem bind_of_ok {x : Action σ α} {f : α → Action σ β} {a : α} (h : x s = .ok a t) :
    (x >>= f) s = f a t := by
  change EStateM.bind x f s = _
  unfold EStateM.bind
  rw [h]

theorem bind_of_error {x : Action σ α} {f : α → Action σ β} {e : Failure} (h : x s = .error e t) :
    (x >>= f) s = .error e t := by
  change EStateM.bind x f s = _
  unfold EStateM.bind
  rw [h]

/-- Actions that end in the same way go on in the same way. -/
theorem bind_eq_of_eq {x y : Action σ α} {f : α → Action σ β} (h : x s = y t) :
    (x >>= f) s = (y >>= f) t := by
  cases hy : y t with
  | ok a u => rw [bind_of_ok (h.trans hy), bind_of_ok hy]
  | error e u => rw [bind_of_error (h.trans hy), bind_of_error hy]

theorem pure_apply (a : α) (s : σ) : (pure a : Action σ α) s = .ok a s := rfl

theorem set_apply (t s : σ) : (set t : Action σ Unit) s = .ok () t := rfl

theorem fail_apply (e : Error) (s : σ) : (fail e : Action σ α) s = .error (.error e) s := rfl

theorem pure_ok {a b : α} : (pure a : Action σ α) s = .ok b t ↔ a = b ∧ s = t := by
  rw [pure_apply, EStateM.Result.ok.injEq]

theorem update_apply (part : Lens σ τ) (f : τ → τ) (s : σ) :
    update part f s = .ok () (part.set (f (part.get s)) s) := rfl

/-- An attempt ends well with an answer or with a reported error. -/
theorem attempt_ok {x : Action σ α} {r : Except Error α} (h : attempt x s = .ok r t) :
    (∃ a, r = .ok a ∧ x s = .ok a t) ∨ ∃ e, r = .error e ∧ x s = .error (.error e) t := by
  unfold attempt at h
  split at h
  next a t' hx =>
    cases h
    exact .inl ⟨a, rfl, hx⟩
  next e t' hx =>
    cases h
    exact .inr ⟨e, rfl, hx⟩
  next f t' hx => cases h

theorem attempt_of_ok {x : Action σ α} {a : α} (h : x s = .ok a t) :
    attempt x s = .ok (.ok a) t := by
  unfold attempt
  rw [h]

theorem attempt_of_error {x : Action σ α} {e : Error} (h : x s = .error (.error e) t) :
    attempt x s = .ok (.error e) t := by
  unfold attempt
  rw [h]

theorem attempt_of_fault {x : Action σ α} {f : Fault} (h : x s = .error (.fault f) t) :
    attempt x s = .error (.fault f) t := by
  unfold attempt
  rw [h]

/-- An action that does not break off has an answer or reports an error. -/
theorem attempt_or_fault (x : Action σ α) (s : σ) :
    (∃ r t, attempt x s = .ok r t) ∨ ∃ f t, x s = .error (.fault f) t := by
  cases h : x s with
  | ok a t => exact .inl ⟨_, t, attempt_of_ok h⟩
  | error failure t =>
    cases failure with
    | error e => exact .inl ⟨_, t, attempt_of_error h⟩
    | fault f => exact .inr ⟨f, t, rfl⟩

theorem tolerate_of_ok {x : Action σ Unit} (h : x s = .ok () t) : tolerate x s = .ok () t :=
  bind_of_ok (attempt_of_ok h)

theorem tolerate_of_error {x : Action σ Unit} {e : Error} (h : x s = .error (.error e) t) :
    tolerate x s = .ok () t :=
  bind_of_ok (attempt_of_error h)

theorem attempt_fail (e : Error) (s : σ) :
    attempt (fail e : Action σ α) s = .ok (.error e) s := rfl

theorem tolerate_fail (e : Error) (s : σ) : tolerate (fail e) s = .ok () s := rfl

section Zoom
variable {part : Lens σ τ} {x : Action τ α} {v : τ}

theorem zoom_ok {a : α} :
    zoom part x s = .ok a t ↔ ∃ v, x (part.get s) = .ok a v ∧ t = part.set v s := by
  unfold zoom
  cases h : x (part.get s) with
  | ok b v =>
    constructor
    · intro h
      cases h
      exact ⟨v, rfl, rfl⟩
    · rintro ⟨v', hv, rfl⟩
      cases hv
      rfl
  | error f v => simp

theorem zoom_of_ok {a : α} (h : x (part.get s) = .ok a v) :
    zoom part x s = .ok a (part.set v s) := by
  unfold zoom
  rw [h]

theorem zoom_of_error {e : Failure} (h : x (part.get s) = .error e v) :
    zoom part x s = .error e (part.set v s) := by
  unfold zoom
  rw [h]

theorem zoom_error {e : Failure} :
    zoom part x s = .error e t ↔ ∃ v, x (part.get s) = .error e v ∧ t = part.set v s := by
  unfold zoom
  cases h : x (part.get s) with
  | ok b v => simp
  | error f v =>
    constructor
    · intro h
      cases h
      exact ⟨v, rfl, rfl⟩
    · rintro ⟨v', hv, rfl⟩
      cases hv
      rfl

/-! ## Actions on a part -/

/-- To write what is there already changes nothing. -/
theorem write_bind (hp : part.Lawful) (x : Action σ α) {v : τ} (hs : part.get s = v) :
    (do write part v; x) s = x s := by
  have hsame : write part v s = .ok () s := by rw [write, ← hs, hp.set_get]
  exact bind_of_ok hsame

/-- What leaves a part as it is leaves the whole state as it is. -/
theorem zoom_of_same (hp : part.Lawful) {a : α} (h : x (part.get s) = .ok a (part.get s)) :
    zoom part x s = .ok a s := by
  rw [zoom_of_ok h, hp.set_get]

theorem zoom_pure (hp : part.Lawful) (a : α) : zoom part (pure a) = pure a := by
  funext s
  rw [zoom_of_ok (pure_apply a _), hp.set_get, pure_apply]

theorem zoom_fail (hp : part.Lawful) (e : Error) : zoom part (fail e : Action τ α) = fail e := by
  funext s
  have h : (fail e : Action τ α) (part.get s) = .error (.error e) (part.get s) := rfl
  rw [zoom_of_error h, hp.set_get]
  rfl

theorem zoom_throw (hp : part.Lawful) (f : Failure) :
    zoom part (throw f : Action τ α) = throw f := by
  funext s
  have h : (throw f : Action τ α) (part.get s) = .error f (part.get s) := rfl
  rw [zoom_of_error h, hp.set_get]
  rfl

theorem zoom_bind (hp : part.Lawful) (x : Action τ α) (f : α → Action τ β) :
    zoom part (x >>= f) = zoom part x >>= fun a => zoom part (f a) := by
  funext s
  cases h : x (part.get s) with
  | error e v =>
    rw [bind_of_error (zoom_of_error h), zoom_of_error (bind_of_error h)]
  | ok a v =>
    rw [bind_of_ok (zoom_of_ok h), zoom, zoom, bind_of_ok h, hp.get_set]
    cases f a v with
    | ok b w => exact congrArg _ (hp.set_set w v s).symm
    | error e w => exact congrArg _ (hp.set_set w v s).symm

theorem zoom_attempt (x : Action τ α) : zoom part (attempt x) = attempt (zoom part x) := by
  funext s
  cases h : x (part.get s) with
  | ok a v => rw [zoom_of_ok (attempt_of_ok h), attempt_of_ok (zoom_of_ok h)]
  | error f v =>
    cases f with
    | error e => rw [zoom_of_ok (attempt_of_error h), attempt_of_error (zoom_of_error h)]
    | fault f => simp only [zoom, attempt, h]

theorem zoom_tolerate (hp : part.Lawful) (x : Action τ Unit) :
    zoom part (tolerate x) = tolerate (zoom part x) := by
  rw [tolerate, tolerate, zoom_bind hp, zoom_attempt]
  exact congrArg (_ >>= ·) (funext fun _ => zoom_pure hp ())

theorem attempt_zoom_ok {r : Except Error α} : attempt (zoom part x) s = .ok r t ↔
    ∃ v, attempt x (part.get s) = .ok r v ∧ t = part.set v s := by
  rw [← zoom_attempt, zoom_ok]

theorem tolerate_zoom_ok (hp : part.Lawful) {x : Action τ Unit} :
    tolerate (zoom part x) s = .ok () t ↔
      ∃ v, tolerate x (part.get s) = .ok () v ∧ t = part.set v s := by
  rw [← zoom_tolerate hp, zoom_ok]

end Zoom

/-! ## What is kept -/

/-- The state that an action leaves, however it ends. -/
def after (x : Action σ α) (s : σ) : σ :=
  match x s with
  | .ok _ t => t
  | .error _ t => t

theorem after_of_ok {x : Action σ α} {a : α} (h : x s = .ok a t) : after x s = t := by
  rw [after, h]

theorem after_of_error {x : Action σ α} {e : Failure} (h : x s = .error e t) : after x s = t := by
  rw [after, h]

/-- How an action ends. -/
def answer (x : Action σ α) (s : σ) : Except Failure α :=
  match x s with
  | .ok a _ => .ok a
  | .error f _ => .error f

theorem answer_of_ok {x : Action σ α} {a : α} (h : x s = .ok a t) : answer x s = .ok a := by
  rw [answer, h]

theorem answer_of_error {x : Action σ α} {e : Failure} (h : x s = .error e t) :
    answer x s = .error e := by
  rw [answer, h]

/-- The action leaves every state with `I` in a state with `I`, also when it fails. -/
def Keeps (I : σ → Prop) (x : Action σ α) : Prop := ∀ s, I s → I (after x s)

/-- The action changes nothing. -/
def Reads (x : Action σ α) : Prop := ∀ s, after x s = s

variable {I : σ → Prop}

theorem Keeps.of_ok {x : Action σ α} {a : α} (hx : Keeps I x) (hs : I s) (h : x s = .ok a t) :
    I t := after_of_ok h ▸ hx s hs

theorem Reads.keeps {x : Action σ α} (h : Reads x) : Keeps I x := fun s hs => by rwa [h s]

theorem reads_iff_keeps {x : Action σ α} : Reads x ↔ ∀ I : σ → Prop, Keeps I x :=
  ⟨fun h _ => h.keeps, fun h s => h (· = s) s rfl⟩

theorem Reads.eq_of_ok {x : Action σ α} {a : α} (hx : Reads x) (h : x s = .ok a t) : t = s := by
  rw [← after_of_ok h, hx]

theorem Reads.eq_of_error {x : Action σ α} {e : Failure} (hx : Reads x) (h : x s = .error e t) :
    t = s := by
  rw [← after_of_error h, hx]

theorem keeps_pure (a : α) : Keeps I (pure a : Action σ α) := fun _ h => h

theorem keeps_fail (e : Error) : Keeps I (fail e : Action σ α) := fun _ h => h

theorem keeps_ofExcept (x : Except Error α) : Keeps I (ofExcept x : Action σ α) := by
  cases x with
  | ok a => exact keeps_pure a
  | error e => exact keeps_fail e

theorem keeps_ofChecked (x : Except Fault α) : Keeps I (ofChecked x : Action σ α) := by
  cases x with
  | ok a => exact keeps_pure a
  | error f => exact fun _ h => h

theorem keeps_bind {x : Action σ α} {f : α → Action σ β} (hx : Keeps I x)
    (hf : ∀ a, Keeps I (f a)) : Keeps I (x >>= f) := by
  intro s hs
  have ht := hx s hs
  cases h : x s with
  | ok a t =>
    rw [after_of_ok h] at ht
    have hu := hf a t ht
    rwa [after, bind_of_ok h, ← after]
  | error e t =>
    rw [after_of_error h] at ht
    rwa [after_of_error (bind_of_error h)]

theorem keeps_attempt {x : Action σ α} (hx : Keeps I x) : Keeps I (attempt x) := by
  intro s hs
  have ht := hx s hs
  unfold after at ht ⊢
  unfold attempt
  cases h : x s with
  | ok a t =>
    rw [h] at ht
    exact ht
  | error f t =>
    rw [h] at ht
    cases f with
    | error e => exact ht
    | fault f => exact ht

theorem keeps_tolerate {x : Action σ Unit} (hx : Keeps I x) : Keeps I (tolerate x) :=
  keeps_bind (keeps_attempt hx) fun _ => keeps_pure ()

/-- An action on a part keeps what does not depend on that part. -/
theorem keeps_zoom {part : Lens σ τ} {x : Action τ α} (h : ∀ s v, I s → I (part.set v s)) :
    Keeps I (zoom part x) := by
  intro s hs
  unfold after zoom
  cases x (part.get s) with
  | ok a v => exact h s v hs
  | error e v => exact h s v hs

/-- An action on a part keeps an invariant of that part. -/
theorem Keeps.zoom {part : Lens σ τ} {J : τ → Prop} {x : Action τ α} (hx : Keeps J x)
    (hget : ∀ s, I s → J (part.get s)) (hset : ∀ s v, I s → J v → I (part.set v s)) :
    Keeps I (zoom part x) := by
  intro s hs
  have hv := hx _ (hget s hs)
  unfold after at hv ⊢
  unfold Action.zoom
  cases h : x (part.get s) with
  | ok a v =>
    rw [h] at hv
    exact hset s v hs hv
  | error e v =>
    rw [h] at hv
    exact hset s v hs hv

theorem reads_bind {x : Action σ α} {f : α → Action σ β} (hx : Reads x)
    (hf : ∀ a, Reads (f a)) : Reads (x >>= f) :=
  reads_iff_keeps.2 fun _ => keeps_bind hx.keeps fun a => (hf a).keeps

theorem reads_pure (a : α) : Reads (pure a : Action σ α) := fun _ => rfl

theorem reads_fail (e : Error) : Reads (fail e : Action σ α) := fun _ => rfl

theorem reads_ofExcept (x : Except Error α) : Reads (ofExcept x : Action σ α) :=
  reads_iff_keeps.2 fun _ => keeps_ofExcept x

theorem reads_ofChecked (x : Except Fault α) : Reads (ofChecked x : Action σ α) :=
  reads_iff_keeps.2 fun _ => keeps_ofChecked x

theorem reads_zoom {part : Lens σ τ} (hp : part.Lawful) {x : Action τ α} (hx : Reads x) :
    Reads (zoom part x) := by
  intro s
  have h := hx (part.get s)
  unfold after at h ⊢
  unfold zoom
  cases hv : x (part.get s) with
  | ok a v =>
    rw [hv] at h
    exact (congrArg (part.set · s) h).trans (hp.set_get s)
  | error e v =>
    rw [hv] at h
    exact (congrArg (part.set · s) h).trans (hp.set_get s)

/-! ## Actions that never break off -/

/-- The action ends with an answer or reports an error. -/
def Answers (x : Action σ α) : Prop := ∀ s, ∃ r t, attempt x s = .ok r t

theorem answers_pure (a : α) : Answers (pure a : Action σ α) :=
  fun s => ⟨.ok a, s, attempt_of_ok (pure_apply a s)⟩

theorem answers_fail (e : Error) : Answers (fail e : Action σ α) :=
  fun s => ⟨.error e, s, attempt_fail e s⟩

theorem answers_ofExcept (x : Except Error α) : Answers (ofExcept x : Action σ α) := by
  cases x with
  | ok a => exact answers_pure a
  | error e => exact answers_fail e

theorem answers_bind {x : Action σ α} {f : α → Action σ β} (hx : Answers x)
    (hf : ∀ a, Answers (f a)) : Answers (x >>= f) := by
  intro s
  obtain ⟨r, t, hr⟩ := hx s
  rcases attempt_ok hr with ⟨a, rfl, ha⟩ | ⟨e, rfl, he⟩
  · obtain ⟨r, u, hu⟩ := hf a t
    refine ⟨r, u, ?_⟩
    rcases attempt_ok hu with ⟨b, rfl, hb⟩ | ⟨e, rfl, he⟩
    · exact attempt_of_ok ((bind_of_ok ha).trans hb)
    · exact attempt_of_error ((bind_of_ok ha).trans he)
  · exact ⟨.error e, t, attempt_of_error (bind_of_error he)⟩

theorem Answers.zoom (part : Lens σ τ) {x : Action τ α} (hx : Answers x) (s : σ) :
    ∃ r v, attempt (zoom part x) s = .ok r (part.set v s) := by
  obtain ⟨r, v, hv⟩ := hx (part.get s)
  exact ⟨r, v, attempt_zoom_ok.2 ⟨v, hv, rfl⟩⟩

end GpuCluster.Action
