import AccessPolicy.Metrics.Basic
import AccessPolicy.Proofs.Metrics.Escaping

namespace AccessPolicy.Metrics

theorem plain_toString (n : Nat) : ∀ c ∈ (toString n).toList, c ≠ '\\' ∧ c ≠ '"' ∧ c ≠ '\n' := by
  intro c hc
  have hdigits : c ∈ Nat.toDigits 10 n := by simpa using hc
  have hdigit : c.isDigit = true := Nat.isDigit_of_mem_toDigits (by decide) (by decide) hdigits
  refine ⟨?_, ?_, ?_⟩
  all_goals
    rintro rfl
    exact absurd hdigit (by decide)

structure Sample where
  name : String
  labels : Labels
  value : Nat

namespace Sample

def series (s : Sample) : String := s.name ++ "\x7b" ++ s.labels.text ++ "\x7d"

def line (s : Sample) : String := s.series ++ " " ++ toString s.value

variable {s t : Sample}

theorem toList_series (s : Sample) :
    s.series.toList = s.name.toList ++ '\x7b' :: (s.labels.text.toList ++ ['\x7d']) := by
  simp [series]

theorem text_eq_of_series_eq (hname : s.name = t.name) (h : s.series = t.series) : s.labels.text = t.labels.text := by
  have hchars := congrArg String.toList h
  rw [toList_series, toList_series, hname] at hchars
  exact String.toList_injective (List.append_cancel_right (List.cons.inj (List.append_cancel_left hchars)).2)

theorem name_eq_of_series_eq (hs : '\x7b' ∉ s.name.toList) (ht : '\x7b' ∉ t.name.toList) (h : s.series = t.series) :
    s.name = t.name := by
  have hname {u : Sample} (hu : '\x7b' ∉ u.name.toList) :
      u.series.toList.takeWhile (· != '\x7b') = u.name.toList := by
    have hall : ∀ c ∈ u.name.toList, (c != '\x7b') = true := fun c hc => bne_iff_ne.2 fun heq => hu (heq ▸ hc)
    rw [toList_series, List.takeWhile_append_of_pos hall]
    simp
  exact String.toList_injective (by rw [← hname hs, ← hname ht, h])

theorem newline_not_mem_line (hname : '\n' ∉ s.name.toList) (hlabels : ∀ l ∈ s.labels, '\n' ∉ l.1.toList) :
    '\n' ∉ s.line.toList := by
  have htext := Labels.newline_not_mem_text hlabels
  have hvalue : '\n' ∉ (toString s.value).toList := fun hmem => (plain_toString s.value _ hmem).2.2 rfl
  rw [line, String.toList_append, String.toList_append, toList_series]
  simp only [List.mem_append, List.mem_cons, hname, htext, hvalue]
  decide

end Sample

namespace Counter

def samples (c : Counter) (name : String) : List Sample := c.values.map fun e => ⟨name, e.1, e.2.toNat⟩

theorem line_eq (name : String) (e : Labels × UInt64) : line name e = (Sample.mk name e.1 e.2.toNat).line := by
  refine String.toList_injective ?_
  simp [line, Sample.line, Sample.series]

theorem lines_perm (c : Counter) (name : String) :
    (c.lines name).Perm (("# TYPE " ++ name ++ " counter") :: (c.samples name).map Sample.line) := by
  have hlines : c.values.map (line name) = (c.samples name).map Sample.line := by
    rw [samples, List.map_map]
    exact List.map_congr_left fun e _ => line_eq name e
  rw [lines, hlines]
  exact (List.mergeSort_perm ..).cons _

end Counter

structure Reading where
  buckets : List Nat
  infinite : Nat
  sum : Nat
  count : Nat
  deriving DecidableEq

namespace Reading

def samples (r : Reading) (name : String) (ls : Labels) : List Sample :=
  List.zipWith (fun bound n => ⟨name ++ "_bucket", ls ++ [("le", toString bound.toNat)], n⟩) bounds r.buckets
    ++ [⟨name ++ "_bucket", ls ++ [("le", "+Inf")], r.infinite⟩, ⟨name ++ "_sum", ls, r.sum⟩,
      ⟨name ++ "_count", ls, r.count⟩]

end Reading

def Series.reading (s : Series) : Reading := ⟨s.buckets.map (·.toNat), s.count.toNat, s.sum.toNat, s.count.toNat⟩

namespace Histogram

theorem bucketLine_eq {bound : String} (hbound : Labels.escaped bound.toList = bound.toList) (name : String)
    (ls : Labels) (n : UInt64) :
    bucketLine name ls.text bound n = (Sample.mk (name ++ "_bucket") (ls ++ [("le", bound)]) n.toNat).line := by
  have hlabel : (Labels.text [("le", bound)]).toList = ['l', 'e', '=', '"'] ++ (bound.toList ++ ['"']) := by
    rw [Labels.toList_text, Labels.chars, List.map_singleton, List.intercalate_singleton, Labels.labelChars_eq, hbound]
    simp
  refine String.toList_injective ?_
  rw [Sample.line, Sample.series, Labels.text_concat, bucketLine]
  simp [hlabel]

theorem block_eq (name : String) (e : Labels × Series) :
    block name e = (e.2.reading.samples name e.1).map Sample.line := by
  have hbounds : ∀ bound n : UInt64, bucketLine name e.1.text (toString bound.toNat) n =
      (Sample.mk (name ++ "_bucket") (e.1 ++ [("le", toString bound.toNat)]) n.toNat).line := fun bound =>
    bucketLine_eq (Labels.escaped_of_plain (plain_toString _)) name e.1
  have hlast : bucketLine name e.1.text "+Inf" e.2.count =
      (Sample.mk (name ++ "_bucket") (e.1 ++ [("le", "+Inf")]) e.2.count.toNat).line := bucketLine_eq (by decide) ..
  rw [block, Reading.samples, List.map_append, List.map_zipWith, Series.reading, List.zipWith_map_right]
  simp only [hbounds, hlast]
  simp [Sample.line, Sample.series, String.append_assoc]

def samples (h : Histogram) (name : String) : List Sample := h.series.flatMap fun e => e.2.reading.samples name e.1

theorem exists_lines_eq (h : Histogram) (name : String) : ∃ entries : Table Labels Series, entries.Perm h.series ∧
    h.lines name = ("# TYPE " ++ name ++ " histogram") ::
      entries.flatMap fun e => (e.2.reading.samples name e.1).map Sample.line := by
  let mayPrecede (a b : List String) : Bool := !List.lex b a fun s t => s < t
  let mayPrecedeByBlock (d e : Labels × Series) : Bool := mayPrecede (block name d) (block name e)
  have hsort : (h.series.map (block name)).mergeSort mayPrecede =
      (List.mergeSort h.series mayPrecedeByBlock).map (block name) := by
    refine (List.map_mergeSort ?_).symm
    exact fun _ _ _ _ => rfl
  refine ⟨List.mergeSort h.series mayPrecedeByBlock, List.mergeSort_perm .., ?_⟩
  rw [lines, hsort, ← List.flatMap_def, funext (block_eq name)]

theorem lines_perm (h : Histogram) (name : String) :
    (h.lines name).Perm (("# TYPE " ++ name ++ " histogram") :: (h.samples name).map Sample.line) := by
  obtain ⟨entries, hperm, hlines⟩ := h.exists_lines_eq name
  rw [hlines, samples, List.map_flatMap]
  exact (hperm.flatMap_right _).cons _

end Histogram

end AccessPolicy.Metrics
