import AccessPolicy.Proofs.Metrics.Labels
import AccessPolicy.Proofs.Metrics.Samples
import Mathlib.Data.List.Nodup

namespace AccessPolicy

theorem nodup_flatMap_of_owner {α β γ : Type} {as : List α} {f : α → List β} (g : α → γ) (owner : β → γ)
    (hg : (as.map g).Nodup) (howner : ∀ a ∈ as, ∀ b ∈ f a, owner b = g a) (hf : ∀ a ∈ as, (f a).Nodup) :
    (as.flatMap f).Nodup := by
  refine List.nodup_flatMap.2 ⟨hf, ?_⟩
  refine (List.pairwise_map.1 hg).imp_of_mem fun {a b} ha hb hne => ?_
  intro c hca hcb
  exact hne ((howner a ha c hca).symm.trans (howner b hb c hcb))

theorem zipWith_sublist_map {α β γ : Type} (f : α → γ) (as : List α) (bs : List β) :
    (List.zipWith (fun a _ => f a) as bs).Sublist (as.map f) := by
  induction as generalizing bs with
  | nil => exact List.nil_sublist _
  | cons a as ih =>
    cases bs with
    | nil => exact List.nil_sublist _
    | cons b bs => exact (ih bs).cons_cons (f a)

namespace Metrics

def Sample.key (s : Sample) : String × Labels := (s.name, s.labels)

theorem Sample.labels_eq_of_series_eq {s t : Sample} (hname : s.name = t.name)
    (hs : ∀ l ∈ s.labels, '=' ∉ l.1.toList) (ht : ∀ l ∈ t.labels, '=' ∉ l.1.toList) (h : s.series = t.series) :
    s.labels = t.labels := by
  have hread := congrArg Labels.read (text_eq_of_series_eq hname h)
  rw [Labels.read_text hs, Labels.read_text ht] at hread
  exact Option.some.inj hread

theorem nodup_series {samples : List Sample} (hnames : ∀ s ∈ samples, '\x7b' ∉ s.name.toList)
    (hlabels : ∀ s ∈ samples, ∀ l ∈ s.labels, '=' ∉ l.1.toList) (hkeys : (samples.map Sample.key).Nodup) :
    (samples.map Sample.series).Nodup := by
  refine List.pairwise_map.2 ((List.pairwise_map.1 hkeys).imp_of_mem fun {s t} hs ht hne hseries => hne ?_)
  have hname : s.name = t.name := Sample.name_eq_of_series_eq (hnames s hs) (hnames t ht) hseries
  exact Prod.ext hname (Sample.labels_eq_of_series_eq hname (hlabels s hs) (hlabels t ht) hseries)

section Keys

variable {name : String}

def boundTexts : List String := (bounds.map fun bound => toString bound.toNat) ++ ["+Inf"]

def blockKeys (name : String) (ls : Labels) : List (String × Labels) :=
  boundTexts.map (fun le => (name ++ "_bucket", ls ++ [("le", le)])) ++ [(name ++ "_sum", ls), (name ++ "_count", ls)]

/-- The labels to which a series of a histogram belongs: those of a bucket have the bound as one more. -/
def ownLabels (name : String) (key : String × Labels) : Labels :=
  if key.1 = name ++ "_bucket" then key.2.dropLast else key.2

theorem keys_samples_sublist (r : Reading) (ls : Labels) :
    ((r.samples name ls).map Sample.key).Sublist (blockKeys name ls) := by
  have hbuckets := zipWith_sublist_map
    (fun bound : UInt64 => (name ++ "_bucket", ls ++ [("le", toString bound.toNat)])) bounds r.buckets
  rw [Reading.samples, List.map_append, List.map_zipWith, blockKeys, boundTexts,
    List.map_append, List.map_map, List.append_assoc]
  exact hbuckets.append_right _

theorem suffixes_ne (name : String) : name ++ "_sum" ≠ name ++ "_bucket" ∧ name ++ "_count" ≠ name ++ "_bucket" ∧
    name ++ "_sum" ≠ name ++ "_count" := by
  simp

theorem ownLabels_of_mem {ls : Labels} {key : String × Labels} (h : key ∈ blockKeys name ls) :
    ownLabels name key = ls := by
  obtain ⟨hsum, hcount, -⟩ := suffixes_ne name
  rcases List.mem_append.1 h with hbucket | hother
  · obtain ⟨le, -, rfl⟩ := List.mem_map.1 hbucket
    simp [ownLabels]
  · rcases List.mem_pair.1 hother with rfl | rfl
    · exact if_neg hsum
    · exact if_neg hcount

theorem nodup_blockKeys (ls : Labels) : (blockKeys name ls).Nodup := by
  obtain ⟨hsum, hcount, hne⟩ := suffixes_ne name
  have hbounds : boundTexts.Nodup := by decide
  refine (hbounds.map fun a b heq => ?_).append ?_ fun key hbucket hother => ?_
  · simpa using heq
  · simp [hne]
  · obtain ⟨le, -, rfl⟩ := List.mem_map.1 hbucket
    rcases List.mem_pair.1 hother with heq | heq
    · exact hsum (Prod.mk.inj heq).1.symm
    · exact hcount (Prod.mk.inj heq).1.symm

theorem Counter.nodup_keys {c : Counter} {used : List Labels} (h : Indexes c.values used) :
    ((c.samples name).map Sample.key).Nodup := by
  have hkeys : (c.samples name).map Sample.key = c.values.keys.map fun ls => (name, ls) := by
    rw [samples, Table.keys, List.map_map, List.map_map]
    rfl
  rw [hkeys]
  exact h.nodup.map fun ls ks heq => (Prod.mk.inj heq).2

theorem Histogram.nodup_keys {h : Histogram} {used : List Labels} (hused : Indexes h.series used) :
    ((h.samples name).map Sample.key).Nodup := by
  rw [samples, List.map_flatMap]
  exact nodup_flatMap_of_owner Prod.fst (ownLabels name) hused.nodup
    (fun e _ _ hkey => ownLabels_of_mem ((keys_samples_sublist e.2.reading e.1).subset hkey))
    fun e _ => (nodup_blockKeys e.1).sublist (keys_samples_sublist e.2.reading e.1)

def seriesNames (name : String) : List String := [name ++ "_bucket", name ++ "_sum", name ++ "_count"]

theorem Counter.name_of_mem_samples {c : Counter} {s : Sample} (h : s ∈ c.samples name) : s.name = name := by
  obtain ⟨e, -, rfl⟩ := List.mem_map.1 h
  rfl

theorem Counter.labels_of_mem_samples {c : Counter} {s : Sample} (h : s ∈ c.samples name) :
    s.labels ∈ c.values.keys := by
  obtain ⟨e, he, rfl⟩ := List.mem_map.1 h
  exact List.mem_map_of_mem he

theorem Histogram.mem_blockKeys_of_mem_samples {h : Histogram} {s : Sample} (hs : s ∈ h.samples name) :
    ∃ ls ∈ h.series.keys, s.key ∈ blockKeys name ls := by
  obtain ⟨e, he, hs⟩ := List.mem_flatMap.1 hs
  exact ⟨e.1, List.mem_map_of_mem he, (keys_samples_sublist e.2.reading e.1).subset (List.mem_map_of_mem hs)⟩

theorem fst_of_mem_blockKeys {ls : Labels} {key : String × Labels} (h : key ∈ blockKeys name ls) :
    key.1 ∈ seriesNames name := by
  rcases List.mem_append.1 h with hbucket | hother
  · obtain ⟨le, -, rfl⟩ := List.mem_map.1 hbucket
    simp [seriesNames]
  · rcases List.mem_pair.1 hother with rfl | rfl <;> simp [seriesNames]

theorem snd_of_mem_blockKeys {ls : Labels} {key : String × Labels} (h : key ∈ blockKeys name ls) :
    ∀ l ∈ key.2, l.1 = "le" ∨ l ∈ ls := by
  rcases List.mem_append.1 h with hbucket | hother
  · obtain ⟨le, -, rfl⟩ := List.mem_map.1 hbucket
    intro l hl
    rcases List.mem_append.1 hl with hl | hl
    · exact .inr hl
    · exact .inl (congrArg Prod.fst (List.mem_singleton.1 hl))
  · rcases List.mem_pair.1 hother with rfl | rfl <;> exact fun l hl => .inr hl

end Keys

end Metrics

end AccessPolicy
