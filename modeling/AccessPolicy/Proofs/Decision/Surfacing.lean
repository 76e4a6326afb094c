import AccessPolicy.Decision

namespace AccessPolicy

def lastOf {α β : Type} (f : α → Option β) (as : List α) : Option β := (as.filterMap f).getLast?

theorem foldl_eq_lastOf {α β δ : Type} (part : δ → Option β) {hint : α → Option β} {step : δ → α → δ}
    (h : ∀ d a, part (step d a) = (hint a).or (part d)) (as : List α) (d : δ) :
    part (as.foldl step d) = (lastOf hint as).or (part d) := by
  induction as generalizing d with
  | nil => rfl
  | cons a as ih =>
    rw [List.foldl_cons, ih, h]
    cases ha : hint a with
    | none => simp [lastOf, ha]
    | some b => simp [lastOf, ha, List.getLast?_cons]

variable [ZoneDatabase]

namespace Effect

def excludes (e : Effect) (t : Instant) : Bool := e.window.any (!·.contains t)

def surfaced? (e : Effect) (t : Instant) : Option Effect := if e.excludes t then none else some e

end Effect

namespace Decision

variable (d : Decision) (e : Effect) (t : Instant)

theorem apply_of_excludes (h : e.excludes t = true) :
    d.apply e t = { d with allow := false, reason := "Outside allowed time window" } := if_pos h

theorem apply_of_not_excludes (h : e.excludes t = false) :
    d.apply e t = { d with
      window := e.window <|> d.window
      quota := e.quota <|> d.quota
      rateLimit := e.rateLimit <|> d.rateLimit
      metadata := .merge d.metadata.toList ((e.metadata.getD .empty).toList) } := by
  have hn : ¬ e.excludes t = true := by simp [h]
  exact if_neg hn

theorem verdict_apply : ((d.apply e t).allow, (d.apply e t).reason) =
    if e.excludes t then (false, "Outside allowed time window") else (d.allow, d.reason) := by
  cases h : e.excludes t with
  | true => rw [apply_of_excludes d e t h]; rfl
  | false => rw [apply_of_not_excludes d e t h]; rfl

theorem triggered_apply : (d.apply e t).triggered = d.triggered := by
  cases h : e.excludes t with
  | true => rw [apply_of_excludes d e t h]
  | false => rw [apply_of_not_excludes d e t h]

theorem quota_apply : (d.apply e t).quota = ((e.surfaced? t).bind (·.quota)).or d.quota := by
  cases h : e.excludes t with
  | true => simp [apply_of_excludes d e t h, Effect.surfaced?, h]
  | false => simp [apply_of_not_excludes d e t h, Effect.surfaced?, h]

theorem rateLimit_apply : (d.apply e t).rateLimit = ((e.surfaced? t).bind (·.rateLimit)).or d.rateLimit := by
  cases h : e.excludes t with
  | true => simp [apply_of_excludes d e t h, Effect.surfaced?, h]
  | false => simp [apply_of_not_excludes d e t h, Effect.surfaced?, h]

theorem window_apply : (d.apply e t).window = ((e.surfaced? t).bind (·.window)).or d.window := by
  cases h : e.excludes t with
  | true => simp [apply_of_excludes d e t h, Effect.surfaced?, h]
  | false => simp [apply_of_not_excludes d e t h, Effect.surfaced?, h]

theorem metadata_apply (key : String) : (d.apply e t).metadata.get? key =
    ((e.surfaced? t).bind fun e => e.metadata.bind (·.get? key)).or (d.metadata.get? key) := by
  cases h : e.excludes t with
  | true => simp [apply_of_excludes d e t h, Effect.surfaced?, h]
  | false =>
    rw [apply_of_not_excludes d e t h, Entries.get?_merge]
    cases hm : e.metadata with
    | none => simp [Effect.surfaced?, h, hm, Entries.get?, Entries.empty]
    | some es => simp [Effect.surfaced?, h, hm]

end Decision

end AccessPolicy
