import AccessPolicy.Policy.Record
import AccessPolicy.Table

namespace AccessPolicy

structure Store where
  tenants : Table UInt64 (List PolicyRecord)

namespace Store

def empty : Store := ⟨[]⟩

instance : Inhabited Store := ⟨empty⟩

def records (s : Store) (tenant : UInt64) : List PolicyRecord := (s.tenants.get? tenant).getD []

def insert (s : Store) (r : PolicyRecord) : Store := ⟨s.tenants.set r.tenant (s.records r.tenant ++ [r])⟩

-- the tenant that the records themselves name is not looked at
def replace (s : Store) (tenant : UInt64) (rs : List PolicyRecord) : Store := ⟨s.tenants.set tenant rs⟩

def remove (s : Store) (tenant : UInt64) : Store := ⟨s.tenants.erase tenant⟩

def ofRecords (rs : List PolicyRecord) : Store := rs.foldl insert empty

theorem records_insert (s : Store) (r : PolicyRecord) (tenant : UInt64) : (s.insert r).records tenant =
    if r.tenant = tenant then s.records tenant ++ [r] else s.records tenant := by
  rw [insert, records, Table.get?_set]
  split
  · rename_i h
    rw [h]
    rfl
  · rfl

theorem records_replace (s : Store) (t tenant : UInt64) (rs : List PolicyRecord) :
    (s.replace t rs).records tenant = if t = tenant then rs else s.records tenant := by
  rw [replace, records, Table.get?_set]
  split <;> rfl

theorem records_remove (s : Store) (t tenant : UInt64) :
    (s.remove t).records tenant = if t = tenant then [] else s.records tenant := by
  rw [remove, records, Table.get?_erase]
  split <;> rfl

theorem records_foldl_insert (s : Store) (rs : List PolicyRecord) (tenant : UInt64) :
    (rs.foldl insert s).records tenant = s.records tenant ++ rs.filter (·.tenant == tenant) := by
  induction rs generalizing s with
  | nil => simp
  | cons r rs ih =>
    rw [List.foldl_cons, ih, records_insert]
    by_cases h : r.tenant = tenant
    · simp [h]
    · simp [h]

theorem records_ofRecords (rs : List PolicyRecord) (tenant : UInt64) :
    (ofRecords rs).records tenant = rs.filter (·.tenant == tenant) :=
  records_foldl_insert empty rs tenant

inductive Change where
  | insert (r : PolicyRecord)
  | replace (tenant : UInt64) (rs : List PolicyRecord)
  | remove (tenant : UInt64)

namespace Change

def tenant : Change → UInt64
  | .insert r => r.tenant
  | .replace t _ => t
  | .remove t => t

def revise : Change → List PolicyRecord → List PolicyRecord
  | .insert r, rs => rs ++ [r]
  | .replace _ rs, _ => rs
  | .remove _, _ => []

end Change

def change (s : Store) : Change → Store
  | .insert r => s.insert r
  | .replace t rs => s.replace t rs
  | .remove t => s.remove t

theorem records_change (s : Store) (c : Change) (tenant : UInt64) : (s.change c).records tenant =
    if c.tenant = tenant then c.revise (s.records tenant) else s.records tenant := by
  cases c with
  | insert r => exact records_insert s r tenant
  | replace t rs => exact records_replace s t tenant rs
  | remove t => exact records_remove s t tenant

def tenantIds (s : Store) : List UInt64 := s.tenants.keys.mergeSort

def enabled (s : Store) (tenant : UInt64) : List PolicyRecord := (s.records tenant).filter (·.enabled)

def ofText (s : String) : Except Fault Store :=
  match PolicyRecord.decodeAll s with
  | .ok rs => .ok (ofRecords rs)
  | .error f => .error (.badRequest ("invalid policy records: " ++ f.message))

end Store

end AccessPolicy
