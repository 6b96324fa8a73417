/-
  How attempts end, and what they tell.

  An attempt in sequence succeeds if all of its parts do, and fails with the first fault; it tells
  what its parts told up to there.  This file says so for `>>=` and for a whole list of attempts
  (`mapM`), so that the proofs about builders and readers never open the monad.

  * `bind_of_ok`, `bind_of_error` — the two ways to run a sequence, as equations;
  * `result_bind_eq_ok_iff`, `result_bind_eq_error_iff`, `mem_events_bind` — the same, backwards;
  * `result_mapM_eq_ok_iff`, `exists_of_result_mapM_eq_error`, `exists_of_mem_events_mapM` — over a
    list;
  * `events_mapM_of_ok`, `exists_stop_of_result_mapM` — all that a list of attempts tells, if it succeeds
    and if it fails.
-/
import Mathlib.Data.List.Forall2
import PartProgram.Attempt

namespace PartProgram.Attempt

variable {α β : Type}

/-! ## The simple attempts -/

@[simp] theorem events_pure (a : α) : (pure a : Attempt α).events = [] := rfl
@[simp] theorem result_pure (a : α) : (pure a : Attempt α).result = .ok a := rfl
@[simp] theorem events_fail (fault : Fault) : (fail fault : Attempt α).events = [] := rfl
@[simp] theorem result_fail (fault : Fault) : (fail fault : Attempt α).result = .error fault := rfl
@[simp] theorem events_report (event : Event) : (report event).events = [event] := rfl
@[simp] theorem result_report (event : Event) : (report event).result = .ok () := rfl
@[simp] theorem events_map (f : α → β) (x : Attempt α) : (f <$> x).events = x.events := rfl
@[simp] theorem result_map (f : α → β) (x : Attempt α) : (f <$> x).result = f <$> x.result := rfl

/-! ## One attempt after another -/

theorem bind_of_ok {x : Attempt α} {a : α} (h : x.result = .ok a) (f : α → Attempt β) :
    x >>= f = ⟨x.events ++ (f a).events, (f a).result⟩ := by
  obtain ⟨events, result⟩ := x
  obtain rfl : result = .ok a := h
  rfl

theorem bind_of_error {x : Attempt α} {fault : Fault} (h : x.result = .error fault)
    (f : α → Attempt β) : x >>= f = ⟨x.events, .error fault⟩ := by
  obtain ⟨events, result⟩ := x
  obtain rfl : result = .error fault := h
  rfl

/-- A sequence succeeds exactly if both parts do. -/
theorem result_bind_eq_ok_iff {x : Attempt α} {f : α → Attempt β} {b : β} :
    (x >>= f).result = .ok b ↔ ∃ a, x.result = .ok a ∧ (f a).result = .ok b := by
  cases h : x.result with
  | error fault =>
    rw [bind_of_error h]
    exact ⟨fun heq => absurd heq (by simp), fun ⟨a, ha, _⟩ => absurd ha (by simp)⟩
  | ok a =>
    rw [bind_of_ok h]
    exact ⟨fun hb => ⟨a, rfl, hb⟩, fun ⟨a', ha, hb⟩ => by cases ha; exact hb⟩

/-- A sequence fails exactly if its first part does, or the second part behind a success. -/
theorem result_bind_eq_error_iff {x : Attempt α} {f : α → Attempt β} {fault : Fault} :
    (x >>= f).result = .error fault ↔
      x.result = .error fault ∨ ∃ a, x.result = .ok a ∧ (f a).result = .error fault := by
  cases h : x.result with
  | error fault' =>
    rw [bind_of_error h]
    simp
  | ok a =>
    rw [bind_of_ok h]
    refine ⟨fun hb => Or.inr ⟨a, rfl, hb⟩, fun hor => ?_⟩
    rcases hor with heq | ⟨a', ha, hb⟩
    · exact absurd heq (by simp)
    · cases ha; exact hb

theorem mem_events_bind {x : Attempt α} {f : α → Attempt β} {event : Event} :
    event ∈ (x >>= f).events ↔
      event ∈ x.events ∨ ∃ a, x.result = .ok a ∧ event ∈ (f a).events := by
  cases h : x.result with
  | error fault => rw [bind_of_error h]; simp
  | ok a => rw [bind_of_ok h]; simp

/-- A sequence begins with what its first part tells. -/
theorem exists_events_bind_eq (x : Attempt α) (f : α → Attempt β) :
    ∃ rest, (x >>= f).events = x.events ++ rest := by
  cases h : x.result with
  | error fault => rw [bind_of_error h]; exact ⟨[], (List.append_nil _).symm⟩
  | ok a => rw [bind_of_ok h]; exact ⟨(f a).events, rfl⟩

/-! ## An attempt that a malformed line does not end -/

theorem orOnFormatError_of_format {x : Attempt α} {e : FormatError}
    (h : x.result = .error (.format e)) (handle : FormatError → Attempt α) :
    x.orOnFormatError handle = ⟨x.events ++ (handle e).events, (handle e).result⟩ := by
  unfold orOnFormatError
  rw [h]

theorem orOnFormatError_of_ne {x : Attempt α} (h : ∀ e, x.result ≠ .error (.format e))
    (handle : FormatError → Attempt α) : x.orOnFormatError handle = x := by
  unfold orOnFormatError
  split
  · next e heq => exact absurd heq (h e)
  · rfl

/-! ## A list of attempts -/

/-- A list of attempts depends only on what each one of them does. -/
theorem mapM_congr {f g : α → Attempt β} {xs : List α} (h : ∀ x ∈ xs, f x = g x) :
    xs.mapM f = xs.mapM g := by
  induction xs with
  | nil => rfl
  | cons x xs ih =>
    obtain ⟨hx, hxs⟩ := List.forall_mem_cons.mp h
    rw [List.mapM_cons, List.mapM_cons, hx, ih hxs]

/-- The attempts of a list succeed with `ys` exactly if each one succeeds with its own of `ys`. -/
theorem result_mapM_eq_ok_iff {f : α → Attempt β} {xs : List α} {ys : List β} :
    (xs.mapM f).result = .ok ys ↔ List.Forall₂ (fun x y => (f x).result = .ok y) xs ys := by
  induction xs generalizing ys with
  | nil => simp [eq_comm]
  | cons x xs ih =>
    rw [List.mapM_cons, result_bind_eq_ok_iff]
    constructor
    · rintro ⟨y, hy, hrest⟩
      obtain ⟨ys', hys', hpure⟩ := result_bind_eq_ok_iff.mp hrest
      cases hpure
      exact List.Forall₂.cons hy (ih.mp hys')
    · intro h
      cases h with
      | @cons _ y _ ys' hy hys' =>
        exact ⟨y, hy, result_bind_eq_ok_iff.mpr ⟨ys', ih.mpr hys', rfl⟩⟩

/-- What each attempt of a list gives stands at its own position. -/
theorem getElem?_of_result_mapM {f : α → Attempt β} {xs : List α} {ys : List β}
    (h : (xs.mapM f).result = .ok ys) {j : Nat} {x : α} (hx : xs[j]? = some x) :
    ∃ y, ys[j]? = some y ∧ (f x).result = .ok y := by
  obtain ⟨hlength, hall⟩ := List.forall₂_iff_get.mp (result_mapM_eq_ok_iff.mp h)
  obtain ⟨hlt, rfl⟩ := List.getElem?_eq_some_iff.mp hx
  have hlt' : j < ys.length := hlength ▸ hlt
  exact ⟨ys[j], List.getElem?_eq_getElem hlt', hall j hlt hlt'⟩

/-- What a list of attempts gives is given by one of them. -/
theorem exists_of_mem_result_mapM {f : α → Attempt β} {xs : List α} {ys : List β}
    (h : (xs.mapM f).result = .ok ys) {y : β} (hy : y ∈ ys) : ∃ x ∈ xs, (f x).result = .ok y := by
  have hlength := (result_mapM_eq_ok_iff.mp h).length_eq
  obtain ⟨j, hj⟩ := List.mem_iff_getElem?.mp hy
  obtain ⟨hlt, _⟩ := List.getElem?_eq_some_iff.mp hj
  have hx : xs[j]? = some (xs.get ⟨j, by omega⟩) := List.getElem?_eq_getElem (by omega)
  obtain ⟨y', hget, hresult⟩ := getElem?_of_result_mapM h hx
  rw [hj] at hget
  obtain rfl : y = y' := Option.some.inj hget
  exact ⟨_, List.mem_of_getElem? hx, hresult⟩

/-- They all succeed exactly if each one does. -/
theorem exists_result_mapM_eq_ok_iff {f : α → Attempt β} {xs : List α} :
    (∃ ys, (xs.mapM f).result = .ok ys) ↔ ∀ x ∈ xs, ∃ y, (f x).result = .ok y := by
  constructor
  · rintro ⟨ys, hys⟩ x hx
    -- from here on it is a fact about `Forall₂`, by induction on it
    have hall := result_mapM_eq_ok_iff.mp hys
    clear hys
    induction hall with
    | nil => exact absurd hx List.not_mem_nil
    | cons hy _ ih =>
      rcases List.mem_cons.mp hx with rfl | hx
      · exact ⟨_, hy⟩
      · exact ih hx
  · intro hall
    induction xs with
    | nil => exact ⟨[], rfl⟩
    | cons x xs ih =>
      obtain ⟨y, hy⟩ := hall x List.mem_cons_self
      obtain ⟨ys, hys⟩ := ih fun x' hx' => hall x' (List.mem_cons_of_mem x hx')
      exact ⟨y :: ys, result_mapM_eq_ok_iff.mpr
        (List.Forall₂.cons hy (result_mapM_eq_ok_iff.mp hys))⟩

/-- A list of attempts fails only with the fault of one of them. -/
theorem exists_of_result_mapM_eq_error {f : α → Attempt β} {xs : List α} {fault : Fault}
    (h : (xs.mapM f).result = .error fault) : ∃ x ∈ xs, (f x).result = .error fault := by
  induction xs with
  | nil => exact absurd h (by simp)
  | cons x xs ih =>
    rw [List.mapM_cons, result_bind_eq_error_iff] at h
    rcases h with hx | ⟨y, _, hrest⟩
    · exact ⟨x, List.mem_cons_self, hx⟩
    · rcases result_bind_eq_error_iff.mp hrest with hxs | ⟨ys, _, hpure⟩
      · obtain ⟨x', hmem, hx'⟩ := ih hxs
        exact ⟨x', List.mem_cons_of_mem x hmem, hx'⟩
      · exact absurd hpure (by simp)

/-- A list of attempts that can fail in one way only fails in that way as soon as one of them does. -/
theorem result_mapM_eq_error {f : α → Attempt β} {xs : List α} {fault : Fault}
    (hall : ∀ x ∈ xs, (∃ y, (f x).result = .ok y) ∨ (f x).result = .error fault)
    (hsome : ∃ x ∈ xs, (f x).result = .error fault) : (xs.mapM f).result = .error fault := by
  cases hresult : (xs.mapM f).result with
  | ok ys =>
    obtain ⟨x, hmem, hx⟩ := hsome
    obtain ⟨y, hy⟩ := exists_result_mapM_eq_ok_iff.mp ⟨ys, hresult⟩ x hmem
    exact absurd (hy.symm.trans hx) (by simp)
  | error fault' =>
    obtain ⟨x, hmem, hx⟩ := exists_of_result_mapM_eq_error hresult
    rcases hall x hmem with ⟨y, hy⟩ | hfault
    · exact absurd (hy.symm.trans hx) (by simp)
    · rw [Except.error.inj (hx.symm.trans hfault)]

/-- A list of attempts stops at the first one that fails. -/
theorem result_mapM_of_stop {f : α → Attempt β} {before after : List α} {x : α} {fault : Fault}
    (hbefore : ∀ y ∈ before, ∃ b, (f y).result = .ok b) (hx : (f x).result = .error fault) :
    ((before ++ x :: after).mapM f).result = .error fault := by
  induction before with
  | nil => rw [List.nil_append, List.mapM_cons, bind_of_error hx]
  | cons y before ih =>
    obtain ⟨⟨b, hb⟩, hrest⟩ := List.forall_mem_cons.mp hbefore
    rw [List.cons_append, List.mapM_cons, result_bind_eq_error_iff]
    refine Or.inr ⟨b, hb, ?_⟩
    rw [bind_of_error (ih hrest)]

/-- A list of attempts that all succeed tells what they tell, one after another. -/
theorem events_mapM_of_ok {f : α → Attempt β} {xs : List α} {ys : List β}
    (h : (xs.mapM f).result = .ok ys) : (xs.mapM f).events = xs.flatMap fun x => (f x).events := by
  induction xs generalizing ys with
  | nil => rfl
  | cons x xs ih =>
    rw [List.mapM_cons] at h ⊢
    obtain ⟨y, hy, hrest⟩ := result_bind_eq_ok_iff.mp h
    obtain ⟨ys', hys', _⟩ := result_bind_eq_ok_iff.mp hrest
    rw [bind_of_ok hy, bind_of_ok hys', List.flatMap_cons]
    show (f x).events ++ ((xs.mapM f).events ++ []) = _
    rw [List.append_nil, ih hys']

/-- A list of attempts that fails has come to one that does, and tells what was told up to there. -/
theorem exists_stop_of_result_mapM {f : α → Attempt β} {xs : List α} {fault : Fault}
    (h : (xs.mapM f).result = .error fault) :
    ∃ before x after ys, xs = before ++ x :: after ∧ (before.mapM f).result = .ok ys ∧
      (f x).result = .error fault ∧ (xs.mapM f).events = (before.mapM f).events ++ (f x).events := by
  induction xs with
  | nil => exact absurd h (by simp)
  | cons x xs ih =>
    rw [List.mapM_cons] at h ⊢
    rcases result_bind_eq_error_iff.mp h with hx | ⟨y, hy, hrest⟩
    · -- the first one fails, and nothing is told before it
      exact ⟨[], x, xs, [], rfl, rfl, hx, by rw [bind_of_error hx]; rfl⟩
    · rcases result_bind_eq_error_iff.mp hrest with hxs | ⟨ys, _, hpure⟩
      · obtain ⟨before, x', after, ys, rfl, hys, hx', hevents⟩ := ih hxs
        refine ⟨x :: before, x', after, y :: ys, rfl, ?_, hx', ?_⟩
        · rw [List.mapM_cons, bind_of_ok hy, bind_of_ok hys]
          rfl
        · rw [bind_of_ok hy, bind_of_error hxs, List.mapM_cons, bind_of_ok hy, bind_of_ok hys]
          show (f x).events ++ _ = (f x).events ++ ((before.mapM f).events ++ []) ++ (f x').events
          rw [hevents, List.append_nil, List.append_assoc]
      · exact absurd hpure (by simp)

/-- What a list of attempts tells is told by one of them. -/
theorem exists_of_mem_events_mapM {f : α → Attempt β} {xs : List α} {event : Event}
    (h : event ∈ (xs.mapM f).events) : ∃ x ∈ xs, event ∈ (f x).events := by
  induction xs with
  | nil => exact absurd h List.not_mem_nil
  | cons x xs ih =>
    rw [List.mapM_cons, mem_events_bind] at h
    rcases h with hx | ⟨y, _, hrest⟩
    · exact ⟨x, List.mem_cons_self, hx⟩
    · rcases mem_events_bind.mp hrest with hxs | ⟨ys, _, hpure⟩
      · obtain ⟨x', hmem, hx'⟩ := ih hxs
        exact ⟨x', List.mem_cons_of_mem x hmem, hx'⟩
      · exact absurd hpure List.not_mem_nil

end PartProgram.Attempt
