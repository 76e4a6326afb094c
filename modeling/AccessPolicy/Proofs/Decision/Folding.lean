import AccessPolicy.Proofs.Decision.Surfacing
import AccessPolicy.Request

namespace AccessPolicy

namespace Entries

variable {α : Type}

theorem not_lt_of_lookup_eq {l m : List (String × α)} {k k' : String} {a b : α}
    (hm : ((k', b) :: m).Pairwise fun a b => a.1 < b.1)
    (h : ∀ name, ((k, a) :: l).lookup name = ((k', b) :: m).lookup name) : ¬k < k' := by
  intro hlt
  have hnone : ((k', b) :: m).lookup k = none := by
    refine lookup_eq_none fun e he => ?_
    rcases List.mem_cons.1 he with rfl | he
    · exact hlt
    · exact String.lt_trans hlt ((List.pairwise_cons.1 hm).1 e he)
  have hsome := h k
  rw [hnone, List.lookup_cons_self] at hsome
  contradiction

theorem eq_of_lookup_eq {l m : List (String × α)} (hl : l.Pairwise fun a b => a.1 < b.1)
    (hm : m.Pairwise fun a b => a.1 < b.1) (h : ∀ name, l.lookup name = m.lookup name) : l = m := by
  induction l generalizing m with
  | nil =>
    cases m with
    | nil => rfl
    | cons f m =>
      obtain ⟨k, b⟩ := f
      simpa using h k
  | cons e l ih =>
    obtain ⟨k, a⟩ := e
    cases m with
    | nil => simpa using h k
    | cons f m =>
      obtain ⟨k', b⟩ := f
      obtain rfl : k = k' := String.le_antisymm (String.not_lt.1 (not_lt_of_lookup_eq hl fun name => (h name).symm))
        (String.not_lt.1 (not_lt_of_lookup_eq hm h))
      obtain rfl : a = b := by simpa using h k
      obtain ⟨hk, hl⟩ := List.pairwise_cons.1 hl
      obtain ⟨hk', hm⟩ := List.pairwise_cons.1 hm
      have htail : l = m := by
        refine ih hl hm fun name => ?_
        by_cases hname : name = k
        · subst hname
          rw [lookup_eq_none hk, lookup_eq_none hk']
        · have hne : (name == k) = false := by simpa using hname
          simpa [List.lookup_cons, hne] using h name
      rw [htail]

theorem ext_get? {es fs : Entries α} (h : ∀ name, es.get? name = fs.get? name) : es = fs := by
  obtain ⟨l, hl⟩ := es
  obtain ⟨m, hm⟩ := fs
  obtain rfl : l = m := eq_of_lookup_eq hl hm h
  rfl

end Entries

theorem lastOf_filter {α β : Type} (p : α → Bool) (f : α → Option β) (as : List α) :
    lastOf f (as.filter p) = lastOf (fun a => if p a then f a else none) as := by
  rw [lastOf, lastOf, List.filterMap_filter]

theorem foldl_foldl_of_hint {α β δ : Type} (part : δ → Option β) {hint : α → Option β} {step : δ → α → δ}
    (h : ∀ d a, part (step d a) = (hint a).or (part d)) (as : List α) (d : δ) :
    part (as.foldl step (as.foldl step d)) = part (as.foldl step d) := by
  rw [foldl_eq_lastOf part h, foldl_eq_lastOf part h, ← Option.or_assoc, Option.or_self]

theorem Decision.ext_parts {d e : Decision} (hverdict : (d.allow, d.reason) = (e.allow, e.reason))
    (htriggered : d.triggered = e.triggered) (hquota : d.quota = e.quota) (hrate : d.rateLimit = e.rateLimit)
    (hwindow : d.window = e.window) (hmetadata : ∀ key, d.metadata.get? key = e.metadata.get? key) : d = e := by
  obtain ⟨hallow, hreason⟩ := Prod.mk.inj hverdict
  obtain ⟨allow, reason, triggered, metadata, quota, rateLimit, window⟩ := d
  obtain ⟨allow', reason', triggered', metadata', quota', rateLimit', window'⟩ := e
  obtain rfl : metadata = metadata' := Entries.ext_get? hmetadata
  subst hallow hreason htriggered hquota hrate hwindow
  rfl

variable [ZoneDatabase]

theorem Effect.all_contains (e : Effect) (t : Instant) : e.window.all (·.contains t) = !e.excludes t := by
  cases h : e.window <;> simp [excludes, h]

namespace Decision

variable (d : Decision) (es : List Effect) (t : Instant)

def applyAll : Decision := es.foldl (·.apply · t) d

theorem verdict_step (e : Effect) : some ((d.apply e t).allow, (d.apply e t).reason) =
    (if e.excludes t then some (false, "Outside allowed time window") else none).or (some (d.allow, d.reason)) := by
  rw [verdict_apply]
  split <;> rfl

theorem verdict_applyAll : ((d.applyAll es t).allow, (d.applyAll es t).reason) =
    if es.any (·.excludes t) then (false, "Outside allowed time window") else (d.allow, d.reason) := by
  induction es generalizing d with
  | nil => rfl
  | cons e es ih =>
    rw [applyAll, List.foldl_cons, ← applyAll, ih, verdict_apply, List.any_cons]
    cases e.excludes t <;> simp

theorem triggered_applyAll : (d.applyAll es t).triggered = d.triggered := by
  induction es generalizing d with
  | nil => rfl
  | cons e es ih => rw [applyAll, List.foldl_cons, ← applyAll, ih, triggered_apply]

theorem hint_applyAll {β : Type} (part : Decision → Option β) {hint : Effect → Option β}
    (h : ∀ (d : Decision) e, part (d.apply e t) = ((e.surfaced? t).bind hint).or (part d)) :
    part (d.applyAll es t) = (lastOf hint (es.filter (!·.excludes t))).or (part d) := by
  have hsurfaced : (fun e : Effect => (e.surfaced? t).bind hint) =
      fun e => if !e.excludes t then hint e else none := by
    funext e
    cases he : e.excludes t <;> simp [Effect.surfaced?, he]
  rw [applyAll, foldl_eq_lastOf part h, lastOf_filter, hsurfaced]

theorem applyAll_filter : d.applyAll es t =
    { d.applyAll (es.filter (!·.excludes t)) t with
      allow := (d.applyAll es t).allow
      reason := (d.applyAll es t).reason } := by
  have hfilter : (es.filter (!·.excludes t)).filter (!·.excludes t) = es.filter (!·.excludes t) := by
    rw [List.filter_filter]
    simp
  refine ext_parts rfl ?_ ?_ ?_ ?_ fun key => ?_
  · simp only [triggered_applyAll]
  · simp only [hint_applyAll d _ t quota (quota_apply · · t), hfilter]
  · simp only [hint_applyAll d _ t rateLimit (rateLimit_apply · · t), hfilter]
  · simp only [hint_applyAll d _ t window (window_apply · · t), hfilter]
  · have h (d : Decision) (e : Effect) := metadata_apply d e t key
    have hall := hint_applyAll d es t (fun d => d.metadata.get? key) h
    have hinside := hint_applyAll d (es.filter (!·.excludes t)) t (fun d => d.metadata.get? key) h
    rw [hfilter] at hinside
    exact hall.trans hinside.symm

theorem applyAll_applyAll : (d.applyAll es t).applyAll es t = d.applyAll es t := by
  refine ext_parts ?_ ?_ ?_ ?_ ?_ fun key => ?_
  · exact Option.some.inj (foldl_foldl_of_hint (fun d => some (d.allow, d.reason)) (fun d e => verdict_step d t e) es d)
  · rw [triggered_applyAll]
  · exact foldl_foldl_of_hint quota (quota_apply · · t) es d
  · exact foldl_foldl_of_hint rateLimit (rateLimit_apply · · t) es d
  · exact foldl_foldl_of_hint window (window_apply · · t) es d
  · exact foldl_foldl_of_hint (fun d => d.metadata.get? key) (fun d e => metadata_apply d e t key) es d

/-- The verdict stands if the moment of the request is inside every window of the effects, and else turns against the
request. The names stay. Of the effects whose window contains the moment, or that have none, the last that carries a
hint or an entry gives it, and the other effects give nothing but the verdict. To take up the same effects once more
changes nothing. -/
theorem effects_in_order (r : Request) :
    let t := r.time.instant
    let inside := es.filter fun e => e.window.all (·.contains t)
    let d' := d.applyAll es t
    (d'.allow, d'.reason) =
      (if ∀ e ∈ es, e.window.all (·.contains t) = true then (d.allow, d.reason)
        else (false, "Outside allowed time window")) ∧
    d'.triggered = d.triggered ∧
    d'.quota = (lastOf (·.quota) inside).or d.quota ∧
    d'.rateLimit = (lastOf (·.rateLimit) inside).or d.rateLimit ∧
    d'.window = (lastOf (·.window) inside).or d.window ∧
    (∀ key, d'.metadata.get? key =
      (lastOf (fun e => e.metadata.bind (·.get? key)) inside).or (d.metadata.get? key)) ∧
    d' = { d.applyAll inside t with allow := d'.allow, reason := d'.reason } ∧
    d'.applyAll es t = d' := by
  intro t inside d'
  have hinside : inside = es.filter (!·.excludes t) :=
    List.filter_congr fun e _ => e.all_contains t
  refine ⟨?_, triggered_applyAll d es t, ?_, ?_, ?_, fun key => ?_, ?_, applyAll_applyAll d es t⟩
  · rw [verdict_applyAll]
    by_cases hall : ∀ e ∈ es, e.window.all (·.contains t) = true
    · rw [if_pos hall, if_neg]
      simpa [Effect.all_contains] using hall
    · rw [if_neg hall, if_pos]
      simpa [Effect.all_contains] using hall
  · rw [hinside]
    exact hint_applyAll d es t quota (quota_apply · · t)
  · rw [hinside]
    exact hint_applyAll d es t rateLimit (rateLimit_apply · · t)
  · rw [hinside]
    exact hint_applyAll d es t window (window_apply · · t)
  · rw [hinside]
    exact hint_applyAll d es t (fun d => d.metadata.get? key) fun d e => metadata_apply d e t key
  · rw [hinside]
    exact applyAll_filter d es t

end Decision

end AccessPolicy
