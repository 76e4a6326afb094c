import AccessPolicy.Cache

namespace AccessPolicy

/-- A get after its look; `evicting` says that the removal is still to come. -/
structure Getting (α : Type) where
  tenant : UInt64
  seen : Nat
  found : Option α
  evicting : Bool

structure SharedCache (α : Type) where
  cache : Cache α
  clock : Nat
  gets : List (Getting α)

namespace SharedCache

inductive Action (α : Type) where
  | pass (nanos : Nat)
  | look (tenant : UInt64)
  | evict (n : Nat)
  | insert (tenant : UInt64) (a : α)
  | invalidate (tenant : UInt64)
  | invalidateAll

variable {α : Type}

def start (ttl : Option Span) (now : Nat) : SharedCache α := ⟨.withTtl ttl, now, []⟩

section Steps

variable (w : SharedCache α)

def held? (t : UInt64) : Option (CacheEntry α) := w.cache.entries.get? t

def look (t : UInt64) : SharedCache α :=
  let found := w.cache.lookup w.clock t
  { w with gets := w.gets ++ [⟨t, w.clock, found, found.isNone && w.cache.isEnabled && (w.held? t).isSome⟩] }

def evict (n : Nat) : SharedCache α :=
  match w.gets[n]? with
  | none => w
  | some g =>
    if g.evicting then
      { w with cache := w.cache.evict g.seen g.tenant, gets := w.gets.set n { g with evicting := false } }
    else w

def step (w : SharedCache α) : Action α → SharedCache α
  | .pass nanos => { w with clock := w.clock + nanos }
  | .look t => w.look t
  | .evict n => w.evict n
  | .insert t a => { w with cache := w.cache.insert w.clock t a }
  | .invalidate t => { w with cache := w.cache.invalidate t }
  | .invalidateAll => { w with cache := w.cache.invalidateAll }

def run (as : List (Action α)) : SharedCache α := as.foldl step w

theorem run_append (as bs : List (Action α)) : w.run (as ++ bs) = (w.run as).run bs := List.foldl_append ..

theorem evict_cases (n : Nat) : w.evict n = w ∨ ∃ g, w.gets[n]? = some g ∧ w.evict n =
    { w with cache := w.cache.evict g.seen g.tenant, gets := w.gets.set n { g with evicting := false } } := by
  unfold evict
  split
  · exact .inl rfl
  · rename_i g hg
    split
    · exact .inr ⟨g, hg, rfl⟩
    · exact .inl rfl

theorem evict_of_missing {t : UInt64} (h : (w.cache.isEnabled && (w.held? t).isSome) = false) :
    w.cache.evict w.clock t = w.cache := by
  unfold Cache.evict
  split
  · rename_i ttl e httl he
    have hentry : w.held? t = some e := he
    simp [Cache.isEnabled, httl, hentry] at h
  · rfl

theorem look_evict_eq_get (t : UInt64) : ∃ g, ((w.look t).evict w.gets.length).gets[w.gets.length]? = some g ∧
    (g.found, ((w.look t).evict w.gets.length).cache) = w.cache.get w.clock t := by
  let seen : Getting α := ⟨t, w.clock, w.cache.lookup w.clock t,
    (w.cache.lookup w.clock t).isNone && w.cache.isEnabled && (w.held? t).isSome⟩
  have hlast : (w.look t).gets[w.gets.length]? = some seen := List.getElem?_concat_length
  have hstay (h : seen.evicting = false) : (w.look t).evict w.gets.length = w.look t := by
    simp [evict, hlast, h]
  cases hl : w.cache.lookup w.clock t with
  | some a =>
    rw [hstay (by simp [seen, hl])]
    exact ⟨seen, hlast, by simp [Cache.get, hl, seen, look]⟩
  | none =>
    have hget : w.cache.get w.clock t = (none, w.cache.evict w.clock t) := by rw [Cache.get, hl]
    rw [hget]
    cases hexpired : w.cache.isEnabled && (w.held? t).isSome with
    | false =>
      rw [hstay (by rw [← hexpired]; simp [seen, hl]), w.evict_of_missing hexpired]
      exact ⟨seen, hlast, by rw [← hl]; rfl⟩
    | true =>
      have hevicting : seen.evicting = true := by rw [← hexpired]; simp [seen, hl]
      have hgone : (w.look t).evict w.gets.length = { w.look t with
          cache := w.cache.evict w.clock t
          gets := (w.look t).gets.set w.gets.length { seen with evicting := false } } := by
        simp only [evict, hlast, hevicting]
        rfl
      rw [hgone]
      refine ⟨_, List.getElem?_set_self (List.getElem?_eq_some_iff.1 hlast).1, ?_⟩
      rw [← hl]

end Steps

section History

namespace Action

def nanos : Action α → Nat
  | .pass nanos => nanos
  | _ => 0

def writes (t : UInt64) : Action α → Bool
  | .insert k _ => k == t
  | .invalidate k => k == t
  | .invalidateAll => true
  | _ => false

end Action

def clockAfter (now : Nat) (as : List (Action α)) : Nat := as.foldl (fun clock b => clock + b.nanos) now

/-- Whether the last that was said of a tenant is that it has a value since a moment. -/
def LastInsert (now : Nat) (as : List (Action α)) (t : UInt64) (a : α) (s : Nat) : Prop :=
  ∃ before after, as = before ++ .insert t a :: after ∧ s = clockAfter now before ∧ ∀ b ∈ after, b.writes t = false

variable {now s : Nat} {as : List (Action α)} {b : Action α} {t : UInt64} {a : α}

theorem clockAfter_concat : clockAfter now (as ++ [b]) = clockAfter now as + b.nanos := by
  simp [clockAfter]

theorem lastInsert_concat : LastInsert now (as ++ [b]) t a s ↔
    b = .insert t a ∧ s = clockAfter now as ∨ b.writes t = false ∧ LastInsert now as t a s := by
  constructor
  · rintro ⟨before, after, heq, hs, hafter⟩
    rcases List.eq_nil_or_concat after with rfl | ⟨after, c, rfl⟩
    · obtain ⟨rfl, hb⟩ := List.append_inj' heq rfl
      exact .inl ⟨List.singleton_inj.1 hb, hs⟩
    · have hsplit : as ++ [b] = (before ++ .insert t a :: after) ++ [c] := by simpa using heq
      obtain ⟨rfl, hb⟩ := List.append_inj' hsplit rfl
      obtain rfl := List.singleton_inj.1 hb
      exact .inr ⟨hafter b (by simp), before, after, rfl, hs, fun c hc => hafter c (by simp [hc])⟩
  · rintro (⟨rfl, rfl⟩ | ⟨hb, before, after, rfl, hs, hafter⟩)
    · exact ⟨as, [], rfl, rfl, by simp⟩
    · refine ⟨before, after ++ [b], by simp, hs, fun c hc => ?_⟩
      rcases List.mem_append.1 hc with hc | hc
      · exact hafter c hc
      · rw [List.mem_singleton.1 hc]
        exact hb

end History

section Entries

variable {w : SharedCache α} {b : Action α} {t : UInt64}

theorem entry_of_not_writes (h : b.writes t = false) : (w.step b).held? t = w.held? t ∨
    (w.step b).held? t = none ∧ ∃ g ∈ w.gets, ∃ span e, w.cache.ttl = some span ∧ w.held? t = some e ∧
      Cache.isFresh span g.seen e = false := by
  cases b with
  | pass nanos => exact .inl rfl
  | look k => exact .inl rfl
  | evict n =>
    rw [step]
    rcases w.evict_cases n with hw | ⟨g, hg, hw⟩
    · rw [hw]
      exact .inl rfl
    · rw [hw]
      refine (w.cache.get?_evict_cases g.seen g.tenant t).imp_right ?_
      rintro ⟨-, hnone, span, e, httl, he, hold⟩
      exact ⟨hnone, g, List.mem_of_getElem? hg, span, e, httl, he, hold⟩
  | insert k a =>
    have hk : ¬ (k = t ∧ w.cache.ttl.isSome) := fun hk => by simp [Action.writes, hk.1] at h
    exact .inl ((w.cache.get?_insert w.clock k t a).trans (if_neg hk))
  | invalidate k =>
    have hk : k ≠ t := by simpa [Action.writes] using h
    exact .inl ((w.cache.get?_invalidate k t).trans (if_neg hk))
  | invalidateAll => contradiction

theorem entry_of_writes (h : b.writes t = true) : (∀ a, b ≠ .insert t a) ∧ (w.step b).held? t = none ∨
    ∃ a, b = .insert t a ∧ (w.cache.ttl.isSome = true → (w.step b).held? t = some ⟨w.clock, a⟩) := by
  cases b with
  | insert k a =>
    obtain rfl : k = t := by simpa [Action.writes] using h
    refine .inr ⟨a, rfl, fun hon => ?_⟩
    exact (w.cache.get?_insert w.clock k k a).trans (if_pos ⟨rfl, hon⟩)
  | invalidate k =>
    have hk : k = t := by simpa [Action.writes] using h
    exact .inl ⟨nofun, (w.cache.get?_invalidate k t).trans (if_pos hk)⟩
  | invalidateAll => exact .inl ⟨nofun, rfl⟩
  | _ => contradiction

end Entries

section Runs

variable {span : Span} {now : Nat} {as : List (Action α)} {w : SharedCache α}

theorem ttl_step (w : SharedCache α) (b : Action α) : (w.step b).cache.ttl = w.cache.ttl := by
  cases b with
  | evict n =>
    rw [step]
    rcases w.evict_cases n with hw | ⟨g, -, hw⟩
    · rw [hw]
    · rw [hw]
      exact Cache.evict_ttl ..
  | insert t a => exact Cache.insert_ttl ..
  | _ => rfl

theorem clock_step (w : SharedCache α) (b : Action α) : (w.step b).clock = w.clock + b.nanos := by
  cases b with
  | evict n =>
    rw [step]
    rcases w.evict_cases n with hw | ⟨g, -, hw⟩ <;> rw [hw] <;> rfl
  | _ => rfl

theorem ttl_run (w : SharedCache α) (as : List (Action α)) : (w.run as).cache.ttl = w.cache.ttl := by
  induction as generalizing w with
  | nil => rfl
  | cons b as ih => exact (ih (w.step b)).trans (ttl_step w b)

theorem clock_run (ttl : Option Span) (now : Nat) (as : List (Action α)) :
    ((start ttl now).run as).clock = clockAfter now as := by
  have hrun (w : SharedCache α) : (w.run as).clock = clockAfter w.clock as := by
    induction as generalizing w with
    | nil => rfl
    | cons b as ih =>
      have hlater : (w.run (b :: as)).clock = clockAfter (w.step b).clock as := ih (w.step b)
      rw [hlater, clock_step]
      rfl
  exact hrun _

theorem seen_step (h : ∀ g ∈ w.gets, g.seen ≤ w.clock) (b : Action α) : ∀ g ∈ (w.step b).gets, g.seen ≤ w.clock := by
  cases b with
  | look t =>
    intro g hg
    rcases List.mem_append.1 hg with hg | hg
    · exact h g hg
    · obtain rfl := List.mem_singleton.1 hg
      exact Nat.le_refl _
  | evict n =>
    rw [step]
    rcases w.evict_cases n with hw | ⟨f, hf, hw⟩
    · rwa [hw]
    · rw [hw]
      intro g hg
      rcases List.mem_or_eq_of_mem_set hg with hg | rfl
      · exact h g hg
      · exact h f (List.mem_of_getElem? hf)
  | _ => exact h

/-- What ties a shared cache to all that was done to it: an entry is what was said last of its tenant, and it is only
missing if that has expired. -/
structure Tracks (span : Span) (now : Nat) (as : List (Action α)) (w : SharedCache α) : Prop where
  ttl : w.cache.ttl = some span
  clock : w.clock = clockAfter now as
  seen : ∀ g ∈ w.gets, g.seen ≤ w.clock
  entry : ∀ t e, w.held? t = some e → LastInsert now as t e.value e.loadedAt
  kept : ∀ t a s, LastInsert now as t a s →
    w.held? t = some ⟨s, a⟩ ∨ w.held? t = none ∧ span.nanos ≤ w.clock - s

theorem tracks_start (span : Span) (now : Nat) : Tracks span now [] (start (some span) now : SharedCache α) where
  ttl := rfl
  clock := rfl
  seen := nofun
  entry := nofun
  kept t a s h := by
    obtain ⟨before, after, heq, -⟩ := h
    simp at heq

theorem Tracks.expired (h : Tracks span now as w) {g : Getting α} (hg : g ∈ w.gets) {e : CacheEntry α}
    (hold : Cache.isFresh span g.seen e = false) : span.nanos ≤ w.clock - e.loadedAt := by
  have hseen := h.seen g hg
  simp only [Cache.isFresh, decide_eq_false_iff_not] at hold
  omega

theorem Tracks.step (h : Tracks span now as w) (b : Action α) : Tracks span now (as ++ [b]) (w.step b) := by
  have hclock := clock_step w b
  have hon : w.cache.ttl.isSome = true := by rw [h.ttl]; rfl
  refine ⟨(ttl_step w b).trans h.ttl, ?_, fun g hg => ?_, fun t e he => ?_, fun t a s hlast => ?_⟩
  · rw [hclock, h.clock, clockAfter_concat]
  · have hseen := seen_step h.seen b g hg
    omega
  · rw [lastInsert_concat]
    cases hb : b.writes t with
    | false =>
      rcases entry_of_not_writes hb with hsame | ⟨hnone, -⟩
      · exact .inr ⟨rfl, h.entry t e (hsame ▸ he)⟩
      · rw [hnone] at he
        contradiction
    | true =>
      rcases entry_of_writes hb with ⟨-, hnone⟩ | ⟨a, rfl, hmade⟩
      · rw [hnone] at he
        contradiction
      · obtain rfl := Option.some.inj ((hmade hon).symm.trans he)
        exact .inl ⟨rfl, h.clock⟩
  · rcases lastInsert_concat.1 hlast with ⟨rfl, rfl⟩ | ⟨hb, hlast⟩
    · have hwrites : (Action.insert t a).writes t = true := beq_self_eq_true t
      rcases entry_of_writes hwrites with ⟨hne, -⟩ | ⟨a', heq, hmade⟩
      · exact absurd rfl (hne a)
      · obtain rfl : a = a' := by simpa using heq
        exact .inl (by rw [hmade hon, h.clock])
    · rcases h.kept t a s hlast with he | ⟨hnone, hexpired⟩
      · rcases entry_of_not_writes hb with hsame | ⟨hgone, g, hg, span', e, httl, he', hold⟩
        · exact .inl (hsame.trans he)
        -- the get that takes the entry away saw it expired, and it has only grown older
        · obtain rfl : span = span' := Option.some.inj (h.ttl.symm.trans httl)
          obtain rfl : (⟨s, a⟩ : CacheEntry α) = e := Option.some.inj (he.symm.trans he')
          have hexpired := h.expired hg hold
          exact .inr ⟨hgone, by simp only at hexpired; omega⟩
      · rcases entry_of_not_writes hb with hsame | ⟨hgone, -⟩
        · exact .inr ⟨hsame.trans hnone, by omega⟩
        · exact .inr ⟨hgone, by omega⟩

theorem Tracks.run (h : Tracks span now as w) (bs : List (Action α)) : Tracks span now (as ++ bs) (w.run bs) := by
  induction bs generalizing as w with
  | nil => rwa [List.append_nil]
  | cons b bs ih =>
    have hsplit : as ++ b :: bs = as ++ [b] ++ bs := by simp
    rw [hsplit]
    exact ih (h.step b)

theorem tracks_run (span : Span) (now : Nat) (as : List (Action α)) :
    Tracks span now as ((start (some span) now).run as) :=
  (tracks_start span now).run as

theorem entries_step_of_disabled (httl : w.cache.ttl = none) (h : w.cache.entries = []) (b : Action α) :
    (w.step b).cache.entries = [] := by
  cases b with
  | evict n =>
    rw [step]
    rcases w.evict_cases n with hw | ⟨g, -, hw⟩
    · rwa [hw]
    · rw [hw]
      simpa [Cache.evict, httl] using h
  | insert t a =>
    simpa [step, Cache.insert, Cache.isEnabled, httl] using h
  | invalidate t =>
    simp [step, Cache.invalidate, h, Table.erase]
  | invalidateAll => rfl
  | _ => exact h

theorem entries_run_of_disabled (httl : w.cache.ttl = none) (h : w.cache.entries = []) (as : List (Action α)) :
    (w.run as).cache.entries = [] := by
  induction as generalizing w with
  | nil => exact h
  | cons b as ih => exact ih ((ttl_step w b).trans httl) (entries_step_of_disabled httl h b)

theorem get_step {n : Nat} {g : Getting α} (hg : w.gets[n]? = some g) (b : Action α) :
    ∃ f, (w.step b).gets[n]? = some f ∧ f.tenant = g.tenant ∧ f.seen = g.seen ∧ f.found = g.found := by
  cases b with
  | look t =>
    have hlt : n < w.gets.length := (List.getElem?_eq_some_iff.1 hg).1
    exact ⟨g, (List.getElem?_append_left hlt).trans hg, rfl, rfl, rfl⟩
  | evict m =>
    rw [step]
    rcases w.evict_cases m with hw | ⟨f, hf, hw⟩
    · rw [hw]
      exact ⟨g, hg, rfl, rfl, rfl⟩
    · rw [hw]
      by_cases hmn : m = n
      · subst hmn
        obtain rfl : f = g := Option.some.inj (hf.symm.trans hg)
        exact ⟨_, List.getElem?_set_self (List.getElem?_eq_some_iff.1 hg).1, rfl, rfl, rfl⟩
      · exact ⟨g, (List.getElem?_set_ne hmn).trans hg, rfl, rfl, rfl⟩
  | _ => exact ⟨g, hg, rfl, rfl, rfl⟩

theorem get_run {n : Nat} {g : Getting α} (hg : w.gets[n]? = some g) (as : List (Action α)) :
    ∃ f, (w.run as).gets[n]? = some f ∧ f.tenant = g.tenant ∧ f.seen = g.seen ∧ f.found = g.found := by
  induction as generalizing w g with
  | nil => exact ⟨g, hg, rfl, rfl, rfl⟩
  | cons b as ih =>
    obtain ⟨f, hf, htenant, hseen, hfound⟩ := get_step hg b
    obtain ⟨f', hf', htenant', hseen', hfound'⟩ := ih hf
    exact ⟨f', hf', htenant'.trans htenant, hseen'.trans hseen, hfound'.trans hfound⟩

theorem Tracks.lookup_iff (h : Tracks span now as w) (t : UInt64) (a : α) :
    w.cache.lookup w.clock t = some a ↔ ∃ s, LastInsert now as t a s ∧ w.clock - s < span.nanos := by
  rw [Cache.lookup_eq_some_iff]
  constructor
  · rintro ⟨span', e, httl, he, hfresh, rfl⟩
    obtain rfl : span = span' := Option.some.inj (h.ttl.symm.trans httl)
    exact ⟨e.loadedAt, h.entry t e he, of_decide_eq_true hfresh⟩
  · rintro ⟨s, hlast, hfresh⟩
    rcases h.kept t a s hlast with he | ⟨-, hexpired⟩
    · exact ⟨span, ⟨s, a⟩, h.ttl, he, decide_eq_true hfresh, rfl⟩
    · omega

theorem lookup_run_iff (ttl : Option Span) (now : Nat) (as : List (Action α)) (t : UInt64) (a : α) :
    ((start ttl now).run as).cache.lookup (clockAfter now as) t = some a ↔
      ∃ span s, ttl = some span ∧ LastInsert now as t a s ∧ clockAfter now as - s < span.nanos := by
  cases ttl with
  | none =>
    have hoff : ((start none now : SharedCache α).run as).cache.ttl = none := ttl_run _ as
    simp [Cache.lookup, hoff]
  | some span =>
    rw [← clock_run (some span), (tracks_run span now as).lookup_iff]
    simp

theorem evicted_run (ttl : Option Span) (now : Nat) (as : List (Action α)) (n : Nat) (t : UInt64) :
    (((start ttl now).run as).step (.evict n)).held? t = ((start ttl now).run as).held? t ∨
      ∃ span e, ttl = some span ∧ ((start ttl now).run as).held? t = some e ∧
        LastInsert now as t e.value e.loadedAt ∧ span.nanos ≤ clockAfter now as - e.loadedAt := by
  have hkept : (Action.evict n : Action α).writes t = false := rfl
  refine (entry_of_not_writes hkept).imp_right ?_
  rintro ⟨-, g, hg, span, e, httl, he, hold⟩
  obtain rfl : ttl = some span := (ttl_run _ as).symm.trans httl
  have htracks := tracks_run span now as
  rw [← clock_run (some span)]
  exact ⟨span, e, rfl, he, htracks.entry t e he, htracks.expired hg hold⟩

end Runs

theorem gets_find_last_insert (ttl : Option Span) (now : Nat) (as : List (Action α)) :
    (∀ t after, ∃ g,
      ((start ttl now).run (as ++ .look t :: after)).gets[((start ttl now).run as).gets.length]? = some g ∧
        g.tenant = t ∧ g.seen = clockAfter now as ∧
        ∀ a, g.found = some a ↔
          ∃ span s, ttl = some span ∧ LastInsert now as t a s ∧ clockAfter now as - s < span.nanos) ∧
      (∀ n t, ((start ttl now).run (as ++ [.evict n])).held? t = ((start ttl now).run as).held? t ∨
        ∃ span e, ttl = some span ∧ ((start ttl now).run as).held? t = some e ∧
          LastInsert now as t e.value e.loadedAt ∧ span.nanos ≤ clockAfter now as - e.loadedAt) ∧
      ((start none now).run as).cache.entries = [] := by
  refine ⟨fun t after => ?_, fun n t => ?_, entries_run_of_disabled rfl rfl as⟩
  · obtain ⟨g, hg, htenant, hseen, hfound⟩ :=
      get_run (w := ((start ttl now).run as).look t) List.getElem?_concat_length after
    rw [run_append]
    refine ⟨g, hg, htenant, hseen.trans (clock_run ttl now as), fun a => ?_⟩
    rw [hfound, clock_run]
    exact lookup_run_iff ttl now as t a
  · rw [run_append]
    exact evicted_run ttl now as n t

-- an insert between the two steps of a get stays
example : ((start (some ⟨5⟩) 0).run [.insert 1 "old", .pass 9, .look 1, .insert 1 "new", .evict 0]).held? 1 =
    some ⟨9, "new"⟩ := by decide

end SharedCache

end AccessPolicy
