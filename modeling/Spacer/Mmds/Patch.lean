/-! The JSON merge patch of the MMDS, and the limit of its data store. -/

namespace Spacer.Mmds

mutual

/-- `serde_json::Value`. -/
inductive Value
  | null
  | bool (value : Bool)
  | number (text : String)
  | string (text : String)
  | array (items : List Value)
  | object (map : Map)

/-- `serde_json::Map`. -/
inductive Map
  | nil
  | cons (key : String) (value : Value) (rest : Map)

end

namespace Map

variable (name : String)

def get? : Map → Option Value
  | nil => none
  | cons key value rest => if key = name then some value else rest.get?

def remove : Map → Map
  | nil => nil
  | cons key value rest => if key = name then rest.remove else cons key value rest.remove

def insert (new : Value) : Map → Map
  | nil => cons name new nil
  | cons key value rest => if key = name then cons key new rest else cons key value (rest.insert new)

end Map

namespace Value

def isNull : Value → Bool
  | null => true
  | _ => false

def asObject : Value → Option Map
  | object map => some map
  | _ => none

end Value

mutual

def jsonPatch (target : Value) : Value → Value
  | .object patch => .object (patchAll (target.asObject.getD .nil) patch)
  | patch => patch

def patchAll (doc : Map) : Map → Map
  | .nil => doc
  | .cons key value rest =>
    if value.isNull then patchAll (doc.remove key) rest
    else patchAll (doc.insert key (jsonPatch ((doc.get? key).getD .null) value)) rest

end

mutual

/-- `MergePatch` of RFC 7396; the target may be undefined. -/
def mergePatch (target : Option Value) : Value → Value
  | .object patch => .object (mergeAll ((target.bind Value.asObject).getD .nil) patch)
  | patch => patch

def mergeAll (target : Map) : Map → Map
  | .nil => target
  | .cons name value rest =>
    if value.isNull then
      mergeAll (if (target.get? name).isSome then target.remove name else target) rest
    else mergeAll (target.insert name (mergePatch (target.get? name) value)) rest

end

mutual

/-- No key occurs twice in an object. -/
def Value.Distinct : Value → Prop
  | .object map => map.Distinct
  | _ => True

def Map.Distinct : Map → Prop
  | .nil => True
  | .cons key value rest => rest.get? key = none ∧ value.Distinct ∧ rest.Distinct

end

namespace Map

variable {doc : Map} {name : String}

theorem get?_remove : (doc.remove name).get? other = if other = name then none else doc.get? other := by
  fun_induction remove name doc with
  | case1 => simp [get?]
  | case2 => grind [get?]
  | case3 => grind [get?]

theorem get?_insert :
  (doc.insert name new).get? other = if other = name then some new else doc.get? other := by
  fun_induction insert name new doc with
  | case1 => grind [get?]
  | case2 => grind [get?]
  | case3 => grind [get?]

theorem remove_absent (absent : doc.get? name = none) : doc.remove name = doc := by
  fun_induction remove name doc with
  | case1 => rfl
  | case2 => simp [get?] at absent
  | case3 key value rest different ih =>
    rw [get?, if_neg different] at absent
    rw [ih absent]

theorem insert_same (found : doc.get? name = some value) : doc.insert name value = doc := by
  fun_induction insert name value doc with
  | case1 => cases found
  | case2 => simp_all [get?]
  | case3 key old rest different ih =>
    rw [get?, if_neg different] at found
    rw [ih found]

end Map

mutual

theorem jsonPatch_eq (target : Option Value) :
  ∀ patch, jsonPatch (target.getD .null) patch = mergePatch target patch
  | .object patch => by
    rw [jsonPatch, mergePatch, patchAll_eq]
    cases target <;> rfl
  | .null => rfl
  | .bool _ => rfl
  | .number _ => rfl
  | .string _ => rfl
  | .array _ => rfl

theorem patchAll_eq (doc : Map) : ∀ patch, patchAll doc patch = mergeAll doc patch
  | .nil => rfl
  | .cons key value rest => by
    have removed : (if (doc.get? key).isSome then doc.remove key else doc) = doc.remove key := by
      split
      · rfl
      · rename_i absent
        rw [Map.remove_absent (by simpa using absent)]
    rw [patchAll, mergeAll, removed, jsonPatch_eq, patchAll_eq, patchAll_eq]

end

theorem get?_patchAll (doc : Map) : ∀ {patch : Map}, patch.Distinct →
    (patchAll doc patch).get? name = match patch.get? name with
      | none => doc.get? name
      | some value =>
        if value.isNull then none else some (jsonPatch ((doc.get? name).getD .null) value)
  | .nil, _ => rfl
  | .cons key value rest, ⟨fresh, _, distinct⟩ => by
    rw [patchAll, Map.get?]
    split
    · rw [get?_patchAll _ distinct, Map.get?_remove]
      grind
    · rw [get?_patchAll _ distinct, Map.get?_insert]
      grind

theorem patchAll_fixed {doc : Map} : ∀ {patch : Map}, patch.Distinct →
    (∀ name value, patch.get? name = some value → if value.isNull then doc.get? name = none
      else ∃ old, doc.get? name = some old ∧ jsonPatch old value = old) → patchAll doc patch = doc
  | .nil, _, _ => rfl
  | .cons key value rest, ⟨fresh, _, distinct⟩, settled => by
    have own := settled key value (by simp [Map.get?])
    have others := patchAll_fixed distinct fun name other found => settled name other (by grind [Map.get?])
    rw [patchAll]
    split at own
    · rename_i null
      rw [if_pos null, Map.remove_absent own, others]
    · rename_i other
      obtain ⟨old, found, same⟩ := own
      rw [if_neg other, found, Option.getD_some, same, Map.insert_same found, others]

mutual

theorem jsonPatch_idem : ∀ {patch : Value}, patch.Distinct → ∀ target,
    jsonPatch (jsonPatch target patch) patch = jsonPatch target patch
  | .object patch, distinct, target => by
    rw [jsonPatch, jsonPatch]
    refine congrArg Value.object (patchAll_fixed distinct fun name value found => ?_)
    have patched := @get?_patchAll name (target.asObject.getD .nil) patch distinct
    rw [found] at patched
    split
    · rename_i null
      simpa [null, Value.asObject] using patched
    · rename_i other
      exact ⟨_, by simpa [other, Value.asObject] using patched, fields_idem distinct found _⟩
  | .null, _, _ => rfl
  | .bool _, _, _ => rfl
  | .number _, _, _ => rfl
  | .string _, _, _ => rfl
  | .array _, _, _ => rfl

theorem fields_idem : ∀ {patch : Map}, patch.Distinct → patch.get? name = some value → ∀ target,
    jsonPatch (jsonPatch target value) value = jsonPatch target value
  | .cons key first rest, ⟨_, own, distinct⟩, found, target => by
    rw [Map.get?] at found
    split at found
    · cases found
      exact jsonPatch_idem own target
    · exact fields_idem distinct found target

end

inductive Error
  | dataStoreLimitExceeded
  | notInitialized

structure Mmds where
  dataStore : Value
  isInitialized : Bool
  dataStoreLimit : Nat

inductive Request
  | put (data : Value)
  | patch (data : Value)

namespace Mmds

def defaultWithLimit (dataStoreLimit : Nat) : Mmds := ⟨.null, false, dataStoreLimit⟩

-- `to_vec` of `serde_json`
variable (toVec : Value → List UInt8) (mmds : Mmds)

def putData (data : Value) : Except Error Unit × Mmds :=
  if mmds.dataStoreLimit < (toVec data).length then (.error .dataStoreLimitExceeded, mmds)
  else (.ok (), { mmds with dataStore := data, isInitialized := true })

def patchData (patch : Value) : Except Error Unit × Mmds :=
  if !mmds.isInitialized then (.error .notInitialized, mmds)
  else
    let dataStore := jsonPatch mmds.dataStore patch
    if mmds.dataStoreLimit < (toVec dataStore).length then (.error .dataStoreLimitExceeded, mmds)
    else (.ok (), { mmds with dataStore })

def handle : Request → Except Error Unit × Mmds
  | .put data => mmds.putData toVec data
  | .patch data => mmds.patchData toVec data

def run (requests : List Request) : Mmds :=
  requests.foldl (fun mmds request => (mmds.handle toVec request).2) mmds

/-- What the store would hold after the request. -/
def wanted : Request → Value
  | .put data => data
  | .patch data => jsonPatch mmds.dataStore data

structure Within (limit : Nat) : Prop where
  same : mmds.dataStoreLimit = limit
  fits : mmds.isInitialized = true → (toVec mmds.dataStore).length ≤ limit
  empty : mmds.isInitialized = false → mmds.dataStore = .null

variable {toVec} {mmds}

theorem within_defaultWithLimit : (defaultWithLimit limit).Within toVec limit :=
  ⟨rfl, nofun, fun _ => rfl⟩

theorem handle_over (large : mmds.dataStoreLimit < (toVec (mmds.wanted request)).length) :
  (∃ error, (mmds.handle toVec request).1 = .error error) ∧ (mmds.handle toVec request).2 = mmds := by
  cases request with
  | put data => simp_all [handle, putData, wanted]
  | patch data =>
    rw [handle, patchData]
    split
    · exact ⟨⟨_, rfl⟩, rfl⟩
    · simp_all [wanted]

theorem handle_within (within : mmds.Within toVec limit) : (mmds.handle toVec request).2.Within toVec limit := by
  by_cases large : mmds.dataStoreLimit < (toVec (mmds.wanted request)).length
  · rwa [(handle_over large).2]
  have small := Nat.le_of_not_lt large
  rw [within.1] at small
  cases request with
  | put data =>
    rw [handle, putData, if_neg (by simpa only [wanted] using large)]
    exact ⟨within.1, fun _ => small, nofun⟩
  | patch data =>
    rw [handle, patchData]
    split
    · exact within
    rename_i initialized
    dsimp only
    rw [if_neg (by simpa only [wanted] using large)]
    exact ⟨within.1, fun _ => small, fun fresh => absurd fresh (by simpa using initialized)⟩

theorem run_within (within : mmds.Within toVec limit) (requests : List Request) :
  (mmds.run toVec requests).Within toVec limit := by
  induction requests generalizing mmds with
  | nil => exact within
  | cons request rest ih => exact ih (handle_within within)

end Mmds

end Spacer.Mmds
