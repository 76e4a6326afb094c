import AccessPolicy.Proofs.Metrics.Buckets
import AccessPolicy.Proofs.Metrics.Counting
import AccessPolicy.Proofs.Metrics.Series
import Mathlib.Data.List.Perm.Basic

namespace AccessPolicy

namespace Text

variable {mark : Char}

theorem splitOn_append_cons {cs : List Char} (h : mark ∉ cs) (rest : List Char) :
    splitOn mark (cs ++ mark :: rest) = cs :: splitOn mark rest := by
  induction cs with
  | nil => simp [splitOn]
  | cons c cs ih =>
    have hc : c ≠ mark := fun hc => h (hc ▸ List.mem_cons_self)
    rw [List.cons_append, splitOn, if_neg hc, ih fun hmem => h (List.mem_cons_of_mem c hmem)]

theorem splitOn_flatMap {pieces : List (List Char)} (h : ∀ p ∈ pieces, mark ∉ p) :
    splitOn mark (pieces.flatMap (· ++ [mark])) = pieces ++ [[]] := by
  induction pieces with
  | nil => rfl
  | cons p ps ih =>
    rw [List.flatMap_cons, List.append_assoc, List.singleton_append, splitOn_append_cons (h p List.mem_cons_self),
      ih fun q hq => h q (List.mem_cons_of_mem p hq)]
    rfl

end Text

namespace Metrics

inductive CounterName where
  | decisions
  | policyEvaluations
  | policiesSkipped
  | storeErrors
  | policyCache
  deriving DecidableEq

namespace CounterName

def all : List CounterName := [decisions, policyEvaluations, policiesSkipped, storeErrors, policyCache]

def text : CounterName → String
  | decisions => "rightsgate_decisions_total"
  | policyEvaluations => "rightsgate_policy_evaluations_total"
  | policiesSkipped => "rightsgate_policies_skipped_total"
  | storeErrors => "rightsgate_store_errors_total"
  | policyCache => "rightsgate_policy_cache_total"

end CounterName

def durationText : String := "rightsgate_evaluation_duration_micros"

section Calls

def counter (m : Metrics) : CounterName → Counter
  | .decisions => m.decisions
  | .policyEvaluations => m.policyEvaluations
  | .policiesSkipped => m.policiesSkipped
  | .storeErrors => m.storeErrors
  | .policyCache => m.policyCache

def setCounter (m : Metrics) (c : Counter) : CounterName → Metrics
  | .decisions => { m with decisions := c }
  | .policyEvaluations => { m with policyEvaluations := c }
  | .policiesSkipped => { m with policiesSkipped := c }
  | .storeErrors => { m with storeErrors := c }
  | .policyCache => { m with policyCache := c }

inductive Call where
  | count (name : CounterName) (call : Counter.Call)
  | observe (o : Histogram.Observation)

namespace Call

def labels : Call → Labels
  | .count _ call => call.labels
  | .observe o => o.labels

def on? (name : CounterName) : Call → Option Counter.Call
  | .count n call => if n = name then some call else none
  | .observe _ => none

def observation? : Call → Option Histogram.Observation
  | .count _ _ => none
  | .observe o => some o

theorem labels_of_on? (name : CounterName) {call : Call} {c : Counter.Call} (h : call.on? name = some c) :
    c.labels = call.labels := by
  cases call with
  | count n d =>
    have hd : d = c := Option.some.inj (Option.ite_none_right_eq_some.1 h).2
    exact hd ▸ rfl
  | observe o => contradiction

theorem labels_of_observation? {call : Call} {o : Histogram.Observation} (h : call.observation? = some o) :
    o.labels = call.labels := by
  cases call with
  | count n c => contradiction
  | observe o' => exact Option.some.inj h ▸ rfl

end Call

def step (m : Metrics) : Call → Metrics
  | .count name call => m.setCounter ((m.counter name).step call) name
  | .observe o => { m with evaluationDuration := m.evaluationDuration.observe o.labels o.length }

def after (m : Metrics) (calls : List Call) : Metrics := calls.foldl step m

theorem counter_setCounter (m : Metrics) (c : Counter) (n k : CounterName) :
    (m.setCounter c n).counter k = if n = k then c else m.counter k := by
  cases n <;> cases k <;> rfl

theorem evaluationDuration_setCounter (m : Metrics) (c : Counter) (n : CounterName) :
    (m.setCounter c n).evaluationDuration = m.evaluationDuration := by
  cases n <;> rfl

theorem counter_after (m : Metrics) (calls : List Call) (k : CounterName) :
    (m.after calls).counter k = (m.counter k).after (calls.filterMap (·.on? k)) := by
  induction calls generalizing m with
  | nil => rfl
  | cons call calls ih =>
    have hafter : m.after (call :: calls) = (m.step call).after calls := rfl
    rw [hafter, ih]
    cases call with
    | observe o => rfl
    | count n call =>
      rw [step, counter_setCounter]
      by_cases hn : n = k
      · rw [List.filterMap_cons_some (by rw [Call.on?, if_pos hn]), if_pos hn, hn]
        rfl
      · rw [List.filterMap_cons_none (by rw [Call.on?, if_neg hn]), if_neg hn]

theorem evaluationDuration_after (m : Metrics) (calls : List Call) :
    (m.after calls).evaluationDuration = m.evaluationDuration.after (calls.filterMap Call.observation?) := by
  induction calls generalizing m with
  | nil => rfl
  | cons call calls ih =>
    have hafter : m.after (call :: calls) = (m.step call).after calls := rfl
    rw [hafter, ih]
    cases call with
    | observe o => rfl
    | count n call =>
      rw [step, evaluationDuration_setCounter]
      rfl

end Calls

section Samples

def samples (m : Metrics) : List Sample :=
  (CounterName.all.flatMap fun k => (m.counter k).samples k.text) ++ m.evaluationDuration.samples durationText

def headings : List String :=
  (CounterName.all.map fun k => "# TYPE " ++ k.text ++ " counter") ++ ["# TYPE " ++ durationText ++ " histogram"]

theorem lines_eq (m : Metrics) : m.lines =
    (CounterName.all.flatMap fun k => (m.counter k).lines k.text) ++ m.evaluationDuration.lines durationText := by
  simp [lines, CounterName.all, CounterName.text, durationText, counter]

theorem lines_perm (m : Metrics) : m.lines.Perm (headings ++ m.samples.map Sample.line) := by
  have hcounters : (CounterName.all.flatMap fun k => (m.counter k).lines k.text).Perm
      ((CounterName.all.map fun k => "# TYPE " ++ k.text ++ " counter") ++
        CounterName.all.flatMap fun k => ((m.counter k).samples k.text).map Sample.line) :=
    (List.Perm.flatMap_left _ fun k _ => (m.counter k).lines_perm k.text).trans
      (List.map_append_flatMap_perm ..).symm
  rw [lines_eq, headings, samples, List.map_append, List.map_flatMap]
  refine (hcounters.append (m.evaluationDuration.lines_perm durationText)).trans ?_
  rw [List.append_assoc, List.append_assoc]
  exact List.perm_middle.append_left _

end Samples

section Apart

theorem indexes_counter (calls : List Call) (k : CounterName) :
    Indexes ((empty.after calls).counter k).values ((calls.filterMap (·.on? k)).map (·.labels)) := by
  have hempty : empty.counter k = Counter.empty := by cases k <;> rfl
  rw [counter_after, hempty]
  exact Counter.indexes_after _

theorem indexes_evaluationDuration (calls : List Call) :
    Indexes (empty.after calls).evaluationDuration.series ((calls.filterMap Call.observation?).map (·.labels)) := by
  rw [evaluationDuration_after]
  exact Histogram.indexes_after _

def counterNames : List String := CounterName.all.map CounterName.text

theorem name_of_mem_counters {m : Metrics} {s : Sample}
    (hs : s ∈ CounterName.all.flatMap fun k => (m.counter k).samples k.text) : s.name ∈ counterNames := by
  obtain ⟨k, hk, hs⟩ := List.mem_flatMap.1 hs
  exact Counter.name_of_mem_samples hs ▸ List.mem_map_of_mem hk

theorem name_of_mem_durations {h : Histogram} {s : Sample} (hs : s ∈ h.samples durationText) :
    s.name ∈ seriesNames durationText := by
  obtain ⟨ls, -, hkey⟩ := Histogram.mem_blockKeys_of_mem_samples hs
  exact fst_of_mem_blockKeys hkey

theorem name_of_mem_samples {m : Metrics} {s : Sample} (hs : s ∈ m.samples) :
    '\x7b' ∉ s.name.toList ∧ '\n' ∉ s.name.toList := by
  have hnames : ∀ name ∈ counterNames ++ seriesNames durationText, '\x7b' ∉ name.toList ∧ '\n' ∉ name.toList := by
    decide +kernel
  refine hnames _ (List.mem_append.2 ?_)
  exact (List.mem_append.1 hs).imp name_of_mem_counters name_of_mem_durations

theorem nodup_keys_samples (calls : List Call) : ((empty.after calls).samples.map Sample.key).Nodup := by
  rw [samples, List.map_append]
  refine List.Nodup.append ?_ (Histogram.nodup_keys (indexes_evaluationDuration calls)) ?_
  · rw [List.map_flatMap]
    refine nodup_flatMap_of_owner CounterName.text Prod.fst (by decide) ?_ ?_
    · intro k _ key hkey
      obtain ⟨s, hs, rfl⟩ := List.mem_map.1 hkey
      exact Counter.name_of_mem_samples hs
    · exact fun k _ => Counter.nodup_keys (indexes_counter calls k)
  · intro key hcounter hduration
    have hdisjoint : ∀ name ∈ counterNames, name ∉ seriesNames durationText := by decide +kernel
    obtain ⟨s, hs, rfl⟩ := List.mem_map.1 hcounter
    obtain ⟨t, ht, hkey⟩ := List.mem_map.1 hduration
    have hname : t.name = s.name := congrArg Prod.fst hkey
    exact hdisjoint s.name (name_of_mem_counters hs) (hname ▸ name_of_mem_durations ht)

section Plain

variable {calls : List Call} (hplain : ∀ call ∈ calls, call.labels.PlainNames)

include hplain

theorem plainNames_of_part {α : Type} {part : Call → Option α} {labels : α → Labels}
    (hpart : ∀ call a, part call = some a → labels a = call.labels) :
    ∀ ls ∈ (calls.filterMap part).map labels, ls.PlainNames := by
  intro ls hls
  obtain ⟨a, ha, rfl⟩ := List.mem_map.1 hls
  obtain ⟨call, hcall, hsome⟩ := List.mem_filterMap.1 ha
  rw [hpart call a hsome]
  exact hplain call hcall

theorem plainNames_of_mem_samples : ∀ s ∈ (empty.after calls).samples, s.labels.PlainNames := by
  intro s hs
  rcases List.mem_append.1 hs with hs | hs
  · obtain ⟨k, -, hs⟩ := List.mem_flatMap.1 hs
    have hcounted := plainNames_of_part hplain fun _ _ => Call.labels_of_on? k
    exact (indexes_counter calls k).forall_mem_keys hcounted _ (Counter.labels_of_mem_samples hs)
  · obtain ⟨ls, hls, hkey⟩ := Histogram.mem_blockKeys_of_mem_samples hs
    have hobserved := plainNames_of_part hplain fun _ _ => Call.labels_of_observation?
    have hown := (indexes_evaluationDuration calls).forall_mem_keys hobserved ls hls
    intro l hl
    rcases snd_of_mem_blockKeys hkey l hl with hle | hl
    · rw [hle]
      simp
    · exact hown l hl

end Plain

end Apart

def report (m : Metrics) : List Char := m.lines.flatMap fun line => line.toList ++ ['\n']

structure SeriesApart (m : Metrics) : Prop where
  feeds : Text.splitOn '\n' m.report = m.lines.map String.toList ++ [[]]
  lines : m.lines.Perm (headings ++ m.samples.map Sample.line)
  series : (m.samples.map Sample.series).Nodup

theorem seriesApart_after {calls : List Call} (hplain : ∀ call ∈ calls, call.labels.PlainNames) :
    SeriesApart (empty.after calls) := by
  have hlabels := plainNames_of_mem_samples hplain
  have hlines := lines_perm (empty.after calls)
  have hline : ∀ line ∈ (empty.after calls).lines, '\n' ∉ line.toList := by
    intro line hmem
    rcases List.mem_append.1 (hlines.mem_iff.1 hmem) with hheading | hsample
    · have hheadings : ∀ heading ∈ headings, '\n' ∉ heading.toList := by decide +kernel
      exact hheadings line hheading
    · obtain ⟨s, hs, rfl⟩ := List.mem_map.1 hsample
      exact Sample.newline_not_mem_line (name_of_mem_samples hs).2 (hlabels s hs).no_feed
  refine ⟨?_, hlines, ?_⟩
  · have hpieces : ∀ p ∈ (empty.after calls).lines.map String.toList, '\n' ∉ p := by
      intro p hp
      obtain ⟨line, hmem, rfl⟩ := List.mem_map.1 hp
      exact hline line hmem
    rw [report, ← Text.splitOn_flatMap hpieces, List.flatMap_map]
  · exact nodup_series (fun s hs => (name_of_mem_samples hs).1) (fun s hs => (hlabels s hs).no_equals)
      (nodup_keys_samples calls)

theorem series_have_own_lines :
    (∀ ls : Labels, ls.PlainNames → Labels.read ls.text = some ls ∧ '\n' ∉ ls.text.toList) ∧
      (∀ ls : Labels, ls.text.toList =
        List.intercalate [','] (ls.map fun l => l.1.toList ++ '=' :: '"' :: (Labels.escaped l.2.toList ++ ['"']))) ∧
      (∀ value, Labels.escaped value =
        Text.replace '\n' ['\\', 'n'] (Text.replace '"' ['\\', '"'] (Text.replace '\\' ['\\', '\\'] value))) ∧
      (∀ value before after, Labels.escaped value = before ++ '"' :: after → Odd (Labels.backslashes before).length) ∧
      (∀ s t : Sample, s.name = t.name → s.labels.PlainNames → t.labels.PlainNames → s.series = t.series →
        s.labels = t.labels) ∧
      ∀ calls : List Call, (∀ call ∈ calls, call.labels.PlainNames) →
        SeriesApart (empty.after calls) ∧
        (∀ k, Indexes ((empty.after calls).counter k).values ((calls.filterMap (·.on? k)).map (·.labels))) ∧
        Indexes (empty.after calls).evaluationDuration.series
          ((calls.filterMap Call.observation?).map (·.labels)) := by
  refine ⟨fun ls hls => ⟨?_, ?_⟩, fun ls => ?_, Labels.escaped_eq_replace,
    fun _ _ _ => Labels.odd_backslashes_of_escaped, fun s t hname hs ht => ?_, fun calls hplain => ?_⟩
  · exact Labels.read_text hls.no_equals
  · exact Labels.newline_not_mem_text hls.no_feed
  · rw [Labels.toList_text, Labels.chars, funext Labels.labelChars_eq]
  · exact Sample.labels_eq_of_series_eq hname hs.no_equals ht.no_equals
  · exact ⟨seriesApart_after hplain, indexes_counter calls, indexes_evaluationDuration calls⟩

theorem series_have_own_lines_of_hostile_value :
    let ls : Labels := [("path", "C:\\"), ("reason", "\",\nreason=\"")]
    let calls : List Call := [.count .policiesSkipped (.increment ls), .count .policiesSkipped (.add ls.reverse 2),
      .observe ⟨ls, ⟨5000⟩⟩]
    (∀ call ∈ calls, call.labels.PlainNames) ∧ Labels.read ls.text = some ls ∧ SeriesApart (empty.after calls) := by
  intro ls calls
  have hplain : ls.PlainNames := by decide
  have hcalls : ∀ call ∈ calls, call.labels.PlainNames := by decide
  obtain ⟨hread, -, -, -, -, hreport⟩ := series_have_own_lines
  exact ⟨hcalls, (hread ls hplain).1, (hreport calls hcalls).1⟩

end Metrics

end AccessPolicy
