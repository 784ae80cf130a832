import GpuCluster.Proofs.Quota.Book

/-!
# Requests to the book of quotas

* `Quota.Request` : what may be asked for a project, `Request.serve` : the operation that does it;
* `Request.serve_eq` : a request reads the quota of its project, and writes no other;
* `Quota.Account`, `Request.effect?` : what a request comes to in unbounded numbers;
* `Quota.Exact` : a book that grants just what fits, each project by itself;
* `requests_exact` : such is the book after any requests, and it shows what they came to.
-/

namespace GpuCluster.Quota

variable {t : Bindings Quota} {q r : Quota} {found : Option Quota} {project other : String}
  {units total : UInt32} {f : Failure}

/-! ## One quota -/

theorem admits_iff (q : Quota) (units : UInt32) :
    q.admits units = true ↔ units.toNat ≤ q.total.toNat - q.used.toNat := by
  rw [admits, Mps.fits, decide_eq_true_eq, UInt32.le_iff_toNat_le, toNat_available]

/-- Units that fit under the total are taken. The sum does not wrap. -/
theorem reserve_of_le (h : q.used.toNat + units.toNat ≤ q.total.toNat) :
    ∃ used, q.reserve units = .ok { q with used := used } ∧
      used.toNat = q.used.toNat + units.toNat := by
  obtain ⟨used, hused⟩ : ∃ used, Checked.add32 q.used units = .ok used := by
    refine ⟨_, if_pos ?_⟩
    have := q.total.toNat_lt
    unfold UInt32.size
    omega
  refine ⟨used, ?_, Checked.add32_eq_ok_iff.1 hused⟩
  rw [reserve, if_pos ((admits_iff q units).2 (by omega)), hused]

/-- Units that do not fit are refused. -/
theorem reserve_of_lt (hq : q.used ≤ q.total) (h : q.total.toNat < q.used.toNat + units.toNat) :
    q.reserve units = .error (.error (.quotaShort q.projectId units q.available)) := by
  rw [UInt32.le_iff_toNat_le] at hq
  refine if_neg fun hfit => ?_
  have := (admits_iff q units).1 hfit
  omega

/-- The quota of a project as a new total finds it. -/
def opened (project : String) (found : Option Quota) : Quota := found.getD (.new project 0)

/-- A quota with a new total, unless more is in use. -/
def resize (project : String) (q : Quota) (total : UInt32) : Except Failure Quota :=
  if total < q.used then .error (.error (.quotaInUse project q.used total))
  else .ok { q with total := total }

/-! ## The store in memory -/

namespace Store

theorem setTotal_eq (project : String) (total : UInt32) (t : Bindings Quota) :
    table.setTotal project total t =
      match (opened project (t.get? project)).resize project total with
      | .ok r => .ok () (t.set r.projectId r)
      | .error f => .error f t := by
  have hget : table.get project t = .ok (t.get? project) t := rfl
  unfold setTotal resize
  rw [Action.bind_of_ok hget]
  change (if total < (opened project (t.get? project)).used then _ else _ : Action _ Unit) t = _
  by_cases h : total < (opened project (t.get? project)).used
  · rw [if_pos h, if_pos h]
    rfl
  · rw [if_neg h, if_neg h]
    rfl

theorem release_of_get? (h : t.get? project = some q) :
    table.release project units t = .ok () (t.set q.projectId (q.release units)) := by
  rw [release, Action.bind_of_ok (load_of_get? h)]
  rfl

theorem available_of_get? (h : t.get? project = some q) :
    table.available project t = .ok q.available t := by
  rw [available, Action.bind_of_ok (load_of_get? h)]
  rfl

end Store

/-! ## Requests -/

/-- What may be asked of the book for a project. -/
inductive Request where
  | setTotal (total : UInt32)
  | reserve (units : UInt32)
  | release (units : UInt32)
  | available

namespace Request

variable {request : Request}

/-- Do what is asked for a project. Only a question has an answer. -/
def serve (project : String) : Request → Action (Bindings Quota) (Option UInt32)
  | .setTotal total => do
    Store.table.setTotal project total
    return none
  | .reserve units => do
    Store.table.reserve project units
    return none
  | .release units => do
    Store.table.release project units
    return none
  | .available => return some (← Store.table.available project)

/-- The quota of a project after a request for it. -/
def next (project : String) : Request → Option Quota → Except Failure Quota
  | .setTotal total, found => (opened project found).resize project total
  | .reserve units, some q => q.reserve units
  | .release units, some q => .ok (q.release units)
  | .available, some q => .ok q
  | _, none => .error (.error (.noQuota project))

/-- The answer to a request that leaves a quota. -/
def shown : Request → Quota → Option UInt32
  | .available, q => some q.available
  | _, _ => none

/-- A request reads the quota of its project, and writes that one if any. -/
theorem serve_cases (project : String) (request : Request) (t : Bindings Quota) :
    (∃ q, request.next project (t.get? project) = .ok q ∧
      request.serve project t = .ok (request.shown q) (t.set q.projectId q)) ∨
    (∃ q, t.get? project = some q ∧ request.next project (some q) = .ok q ∧
      request.serve project t = .ok (request.shown q) t) ∨
    ∃ f, request.next project (t.get? project) = .error f ∧
      request.serve project t = .error f t := by
  cases request with
  | setTotal total =>
    have hset := Store.setTotal_eq project total t
    cases hr : (opened project (t.get? project)).resize project total with
    | ok r =>
      rw [hr] at hset
      exact .inl ⟨r, hr, Action.bind_of_ok hset⟩
    | error f =>
      rw [hr] at hset
      exact .inr (.inr ⟨f, hr, Action.bind_of_error hset⟩)
  | reserve units =>
    cases hq : t.get? project with
    | none =>
      exact .inr (.inr ⟨_, rfl, Action.bind_of_error (Action.bind_of_error (Store.load_of_none hq))⟩)
    | some q =>
      have hreserve : Store.table.reserve project units t = _ := Store.reserve_of_get? hq
      cases hr : q.reserve units with
      | ok r =>
        rw [hr] at hreserve
        exact .inl ⟨r, hr, Action.bind_of_ok hreserve⟩
      | error f =>
        rw [hr] at hreserve
        exact .inr (.inr ⟨f, hr, Action.bind_of_error hreserve⟩)
  | release units =>
    cases hq : t.get? project with
    | none =>
      exact .inr (.inr ⟨_, rfl, Action.bind_of_error (Action.bind_of_error (Store.load_of_none hq))⟩)
    | some q => exact .inl ⟨_, rfl, Action.bind_of_ok (Store.release_of_get? hq)⟩
  | available =>
    cases hq : t.get? project with
    | none =>
      exact .inr (.inr ⟨_, rfl, Action.bind_of_error (Action.bind_of_error (Store.load_of_none hq))⟩)
    | some q => exact .inr (.inl ⟨q, rfl, rfl, Action.bind_of_ok (Store.available_of_get? hq)⟩)

theorem answer_serve (project : String) (request : Request) (t : Bindings Quota) :
    (request.serve project).answer t =
      (request.next project (t.get? project)).map request.shown := by
  unfold Action.answer
  obtain ⟨q, hq, h⟩ | ⟨q, hf, hq, h⟩ | ⟨f, hf, h⟩ := serve_cases project request t
  · rw [h, hq]
    rfl
  · rw [h, hf, hq]
    rfl
  · rw [h, hf]
    rfl

end Request

/-! ## Accounts -/

/-- A quota in unbounded numbers. -/
structure Account where
  total : Nat
  used : Nat

def toAccount (q : Quota) : Account := ⟨q.total.toNat, q.used.toNat⟩

/-- What the book shows for a project. -/
def account (t : Bindings Quota) (project : String) : Option Account :=
  (t.get? project).map toAccount

namespace Request

variable {request : Request}

/-- What a request makes of an account, unless it is refused. A project has no account before its
first total. -/
def effect? : Request → Option Account → Option Account
  | .setTotal total, a =>
    let used := a.elim 0 (·.used)
    if used ≤ total.toNat then some ⟨total.toNat, used⟩ else none
  | .reserve units, some a =>
    if a.used + units.toNat ≤ a.total then some ⟨a.total, a.used + units.toNat⟩ else none
  | .release units, some a => some ⟨a.total, a.used - units.toNat⟩
  | .available, some a => some a
  | _, none => none

theorem effect?_setTotal (total : UInt32) (a : Option Account) : (setTotal total).effect? a =
    if a.elim 0 (·.used) ≤ total.toNat then some ⟨total.toNat, a.elim 0 (·.used)⟩ else none := rfl

theorem effect?_reserve (units : UInt32) (a : Account) : (reserve units).effect? (some a) =
    if a.used + units.toNat ≤ a.total then some ⟨a.total, a.used + units.toNat⟩ else none := rfl

/-- A quota that covers what is used follows its account, and still covers what is used. -/
theorem next_cases (request : Request)
    (hq : ∀ q, found = some q → q.projectId = project ∧ q.used ≤ q.total) :
    (∃ r, request.next project found = .ok r ∧
      request.effect? (found.map toAccount) = some r.toAccount ∧
      r.projectId = project ∧ r.used ≤ r.total) ∨
    ∃ detail, request.next project found = .error (.error (.quotaExceeded detail)) ∧
      request.effect? (found.map toAccount) = none := by
  cases request with
  | setTotal total =>
    have hopened : (opened project found).projectId = project ∧
        (opened project found).used.toNat = (found.map toAccount).elim 0 (·.used) := by
      cases found with
      | none => exact ⟨rfl, rfl⟩
      | some q => exact ⟨(hq q rfl).1, rfl⟩
    obtain ⟨hid, hused⟩ := hopened
    rw [next, effect?, resize, ← hused]
    by_cases h : total < (opened project found).used
    · refine .inr ⟨_, if_pos h, if_neg ?_⟩
      rw [UInt32.lt_iff_toNat_lt] at h
      omega
    · have hle := UInt32.not_lt.1 h
      exact .inl ⟨_, if_neg h, if_pos (UInt32.le_iff_toNat_le.1 hle), hid, hle⟩
  | reserve units =>
    cases found with
    | none => exact .inr ⟨_, rfl, rfl⟩
    | some q =>
      obtain ⟨hid, hle⟩ := hq q rfl
      by_cases h : q.used.toNat + units.toNat ≤ q.total.toNat
      · obtain ⟨used, hr, hused⟩ := reserve_of_le h
        refine .inl ⟨_, hr, ?_, hid, ?_⟩
        · rw [toAccount, hused]
          exact if_pos h
        · rw [UInt32.le_iff_toNat_le, hused]
          exact h
      · exact .inr ⟨_, reserve_of_lt hle (Nat.not_le.1 h), if_neg h⟩
  | release units =>
    cases found with
    | none => exact .inr ⟨_, rfl, rfl⟩
    | some q =>
      obtain ⟨hid, hle⟩ := hq q rfl
      refine .inl ⟨_, rfl, ?_, hid, release_le hle⟩
      rw [toAccount, toNat_used_release]
      rfl
  | available =>
    cases found with
    | none => exact .inr ⟨_, rfl, rfl⟩
    | some q => exact .inl ⟨q, rfl, rfl, hq q rfl⟩

/-- The quota of a project once a request for it has been granted or refused. -/
def settled (project : String) (request : Request) (found : Option Quota) : Option Quota :=
  match request.next project found with
  | .ok r => some r
  | .error _ => found

/-- A request that is granted leaves one quota in its place, a refused one changes nothing. -/
theorem serve_kept (ht : Kept t) (project : String) (request : Request) :
    (∃ r t', request.next project (t.get? project) = .ok r ∧
      request.effect? (account t project) = some r.toAccount ∧
      request.serve project t = .ok (request.shown r) t' ∧ Kept t' ∧
      ∀ other, t'.get? other = if project = other then some r else t.get? other) ∨
    ∃ detail, request.next project (t.get? project) = .error (.error (.quotaExceeded detail)) ∧
      request.effect? (account t project) = none ∧
      request.serve project t = .error (.error (.quotaExceeded detail)) t := by
  obtain ⟨r, hr, hchange, hid, hle⟩ | ⟨detail, hf, hchange⟩ := next_cases request (ht project)
  · refine .inl ?_
    obtain ⟨q, hq, h⟩ | ⟨q, hq, hsame, h⟩ | ⟨f, hf, -⟩ := serve_cases project request t
    · rw [hr] at hq
      obtain rfl := Except.ok.inj hq
      refine ⟨r, _, hr, hchange, h, ht.set hle, fun other => ?_⟩
      rw [Bindings.get?_set, hid]
    · rw [hq, hsame] at hr
      obtain rfl := Except.ok.inj hr
      refine ⟨q, t, hq ▸ hsame, hchange, h, ht, fun other => ?_⟩
      by_cases ho : project = other
      · rw [if_pos ho, ← ho, hq]
      · rw [if_neg ho]
    · rw [hr] at hf
      cases hf
  · refine .inr ⟨detail, hf, hchange, ?_⟩
    obtain ⟨q, hq, -⟩ | ⟨q, hq, hsame, -⟩ | ⟨g, hg, h⟩ := serve_cases project request t
    · rw [hf] at hq
      cases hq
    · rw [hq, hsame] at hf
      cases hf
    · rw [hf] at hg
      obtain rfl := Except.error.inj hg
      exact h

end Request

/-! ## Any number of requests -/

open Request

/-- The book after a request. -/
def served (t : Bindings Quota) (e : String × Request) : Bindings Quota :=
  Action.after (e.2.serve e.1) t

/-- What further requests make of an account. Those that are refused do not count. -/
def balance (a : Option Account) (requests : List Request) : Option Account :=
  requests.foldl (fun a request => (request.effect? a).or a) a

theorem served_kept (ht : Kept t) (project : String) (request : Request) :
    Kept (served t (project, request)) ∧
    account (served t (project, request)) project =
      (request.effect? (account t project)).or (account t project) ∧
    ∀ other, (served t (project, request)).get? other =
      if project = other then settled project request (t.get? project) else t.get? other := by
  unfold settled
  obtain ⟨r, t', hr, hchange, h, ht', hget⟩ | ⟨detail, hr, hchange, h⟩ :=
    serve_kept ht project request
  · have hserved : served t (project, request) = t' := Action.after_of_ok h
    rw [hserved, hr, hchange, account, hget, if_pos rfl]
    exact ⟨ht', rfl, hget⟩
  · have hserved : served t (project, request) = t := Action.after_of_error h
    rw [hserved, hr, hchange]
    refine ⟨ht, rfl, fun other => ?_⟩
    by_cases ho : project = other
    · rw [if_pos ho, ← ho]
    · rw [if_neg ho]

/-- What is asked for one project does not touch another. -/
theorem get?_served_of_ne (ht : Kept t) (request : Request) (hne : project ≠ other) :
    (served t (project, request)).get? other = t.get? other :=
  ((served_kept ht project request).2.2 other).trans (if_neg hne)

/-- The next request is granted exactly if it fits, and is a matter of its project alone. -/
structure Exact (t : Bindings Quota) : Prop where
  covered : ∀ project q, t.get? project = some q → q.used ≤ q.total
  reserve_iff : ∀ project units, (∃ t', Store.table.reserve project units t = .ok () t') ↔
    ∃ a, account t project = some a ∧ a.used + units.toNat ≤ a.total
  reserved : ∀ project units t', Store.table.reserve project units t = .ok () t' →
    ∃ a, account t project = some a ∧
      account t' project = some ⟨a.total, a.used + units.toNat⟩
  setTotal_iff : ∀ project total, (∃ t', Store.table.setTotal project total t = .ok () t') ↔
    usedIn t project ≤ total.toNat
  resized : ∀ project total t', Store.table.setTotal project total t = .ok () t' →
    account t' project = some ⟨total.toNat, usedIn t project⟩
  released : ∀ project units a, account t project = some a →
    ∃ t', Store.table.release project units t = .ok () t' ∧
      account t' project = some ⟨a.total, a.used - units.toNat⟩
  available : ∀ project a, account t project = some a →
    ∃ n, Store.table.available project t = .ok n t ∧ n.toNat = a.total - a.used
  refused : ∀ (project : String) (request : Request) f t', request.serve project t = .error f t' →
    t' = t ∧ ∃ detail, f = .error (.quotaExceeded detail)
  apart : ∀ project request other, other ≠ project →
    (served t (project, request)).get? other = t.get? other
  commute : ∀ (project : String) (request : Request) other (request' : Request), project ≠ other →
    (request.serve project).answer t =
      (request.serve project).answer (served t (other, request')) ∧
    (request'.serve other).answer (served t (project, request)) =
      (request'.serve other).answer t ∧
    ∀ any, (served (served t (project, request)) (other, request')).get? any =
      (served (served t (other, request')) (project, request)).get? any

/-- An operation without an answer is served as it is. -/
theorem silent_ok {x : Action (Bindings Quota) Unit} {v : Option UInt32} {t' : Bindings Quota} :
    (do x; return (none : Option UInt32)) t = .ok v t' ↔ x t = .ok () t' ∧ v = none := by
  rw [Action.bind_ok]
  constructor
  · rintro ⟨_, u, hx, hv⟩
    cases hv
    exact ⟨hx, rfl⟩
  · rintro ⟨hx, rfl⟩
    exact ⟨(), t', hx, rfl⟩

theorem exists_silent_ok {x : Action (Bindings Quota) Unit} :
    (∃ t', x t = .ok () t') ↔ ∃ v t', (do x; return (none : Option UInt32)) t = .ok v t' := by
  constructor
  · rintro ⟨t', h⟩
    exact ⟨none, t', silent_ok.2 ⟨h, rfl⟩⟩
  · rintro ⟨v, t', h⟩
    exact ⟨t', (silent_ok.1 h).1⟩

theorem account_used (t : Bindings Quota) (project : String) :
    usedIn t project = (account t project).elim 0 (·.used) := by
  unfold usedIn account
  cases t.get? project with
  | none => rfl
  | some q => rfl

namespace Kept

variable {v : Option UInt32} {t' : Bindings Quota}

/-- A request is granted exactly if the account of its project admits it. -/
theorem granted_iff (ht : Kept t) (request : Request) : (∃ v t', request.serve project t = .ok v t') ↔
    ∃ a, request.effect? (account t project) = some a := by
  obtain ⟨r, u, -, hchange, h, -⟩ | ⟨_, -, hchange, h⟩ := serve_kept ht project request
  · rw [h, hchange]
    exact ⟨fun _ => ⟨_, rfl⟩, fun _ => ⟨_, _, rfl⟩⟩
  · rw [h, hchange]
    exact ⟨nofun, nofun⟩

/-- What a request that was granted has made of the account. -/
theorem of_granted (ht : Kept t) {request : Request} (h : request.serve project t = .ok v t') :
    ∃ q, t'.get? project = some q ∧ v = request.shown q ∧
      request.effect? (account t project) = some q.toAccount ∧
      account t' project = some q.toAccount := by
  obtain ⟨r, u, -, hchange, hserve, -, hget⟩ | ⟨_, -, -, hserve⟩ := serve_kept ht project request
  · rw [h] at hserve
    cases hserve
    have hr : t'.get? project = some r := (hget project).trans (if_pos rfl)
    refine ⟨r, hr, rfl, hchange, ?_⟩
    rw [account, hr]
    rfl
  · rw [h] at hserve
    cases hserve

/-- What is asked for one project changes neither the answer nor the quota of another. -/
theorem commute (ht : Kept t) (hne : project ≠ other) (request request' : Request) :
    (request.serve project).answer (served t (other, request')) =
      (request.serve project).answer t ∧
    ∀ any, (served (served t (project, request)) (other, request')).get? any =
      (served (served t (other, request')) (project, request)).get? any := by
  obtain ⟨hfirst, -, hget⟩ := served_kept ht project request
  obtain ⟨hsecond, -, hget'⟩ := served_kept ht other request'
  have hown := get?_served_of_ne ht request' hne.symm
  have hown' := get?_served_of_ne ht request hne
  refine ⟨by rw [answer_serve, answer_serve, hown], fun any => ?_⟩
  rw [(served_kept hfirst other request').2.2, (served_kept hsecond project request).2.2, hown,
    hown', hget, hget']
  by_cases hp : project = any
  · rw [if_pos hp, if_neg fun ho => hne (hp.trans ho.symm)]
    exact (if_pos hp).symm
  · rw [if_neg hp, if_neg hp]

theorem toExact (ht : Kept t) : Exact t where
  covered project q hq := (ht project q hq).2
  reserve_iff project units := by
    rw [exists_silent_ok]
    refine (ht.granted_iff (.reserve units)).trans ?_
    cases account t project with
    | none => simp [effect?]
    | some a => simp [effect?]
  reserved project units t' h := by
    have hserve : (Request.reserve units).serve project t = .ok none t' := silent_ok.2 ⟨h, rfl⟩
    obtain ⟨q, -, -, hchange, hq⟩ := ht.of_granted hserve
    rw [hq, ← hchange]
    cases ha : account t project with
    | none =>
      rw [ha] at hchange
      cases hchange
    | some a =>
      rw [ha, effect?_reserve] at hchange
      rw [effect?_reserve]
      refine ⟨a, rfl, ?_⟩
      split at hchange
      next hle => exact if_pos hle
      next => cases hchange
  setTotal_iff project total := by
    rw [exists_silent_ok, account_used]
    refine (ht.granted_iff (.setTotal total)).trans ?_
    simp [effect?]
  resized project total t' h := by
    have hserve : (Request.setTotal total).serve project t = .ok none t' := silent_ok.2 ⟨h, rfl⟩
    obtain ⟨q, -, -, hchange, hq⟩ := ht.of_granted hserve
    rw [effect?_setTotal] at hchange
    rw [hq, ← hchange, account_used]
    split at hchange
    next hle => exact if_pos hle
    next => cases hchange
  released project units a ha := by
    obtain ⟨v, t', h⟩ := (ht.granted_iff (.release units)).2 ⟨_, congrArg _ ha⟩
    obtain ⟨q, -, -, hchange, hq⟩ := ht.of_granted h
    rw [ha] at hchange
    exact ⟨t', (silent_ok.1 h).1, hq.trans hchange.symm⟩
  available project a ha := by
    cases hq : t.get? project with
    | none =>
      rw [account, hq] at ha
      cases ha
    | some q =>
      rw [account, hq] at ha
      cases ha
      exact ⟨q.available, Store.available_of_get? hq, toNat_available q⟩
  refused project request f t' h := by
    obtain ⟨r, u, -, -, hserve, -⟩ | ⟨detail, -, -, hserve⟩ := serve_kept ht project request
    · rw [h] at hserve
      cases hserve
    · rw [h] at hserve
      cases hserve
      exact ⟨rfl, detail, rfl⟩
  apart project request other ho := get?_served_of_ne ht request ho.symm
  commute project request other request' hne := by
    obtain ⟨hanswer, hget⟩ := ht.commute hne request request'
    exact ⟨hanswer.symm, (ht.commute hne.symm request' request).1, hget⟩

end Kept

theorem foldl_served (ht : Kept t) (es : List (String × Request)) :
    Kept (es.foldl served t) ∧ ∀ project, account (es.foldl served t) project =
      balance (account t project) ((es.filter (·.1 = project)).map (·.2)) := by
  induction es generalizing t with
  | nil => exact ⟨ht, fun _ => rfl⟩
  | cons e es ih =>
    obtain ⟨first, request⟩ := e
    obtain ⟨hkept, hchange, -⟩ := served_kept ht first request
    obtain ⟨hall, haccount⟩ := ih hkept
    refine ⟨hall, fun project => (haccount project).trans ?_⟩
    by_cases hp : first = project
    · subst hp
      rw [hchange, List.filter_cons_of_pos (by simp)]
      rfl
    · have hsame : account (served t (first, request)) project = account t project :=
        congrArg (Option.map toAccount) (get?_served_of_ne ht request hp)
      rw [hsame, List.filter_cons_of_neg (by simpa using hp)]

/-- After any requests, the next one is granted exactly if it fits, each project by itself, and the
book shows for each project what the requests for it have come to. -/
theorem requests_exact (es : List (String × Request)) :
    Exact (es.foldl served ∅) ∧ ∀ project, account (es.foldl served ∅) project =
      balance none ((es.filter (·.1 = project)).map (·.2)) := by
  obtain ⟨hkept, haccount⟩ := foldl_served kept_empty es
  exact ⟨hkept.toExact, haccount⟩

end GpuCluster.Quota
