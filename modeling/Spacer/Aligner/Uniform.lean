import Spacer.Aligner.Objects

/-!
What `copy_all_objs` leaves behind: every object of every unikernel is the first of the
biggest object files of its library.
-/

namespace Spacer.Aligner

open Lib

def fileAt (folders : Folders) (name lib : String) : Option ObjFile :=
  (folders.get? name).bind fun folder => folder.objects.get? lib

def better (best : Option (String × ObjFile)) (next : String × ObjFile) : Option (String × ObjFile) :=
  match best with
  | none => some next
  | some old => if old.2.fileSize < next.2.fileSize then some next else some old

def objectsOf (entries : List (String × Folder)) (lib : String) : List (String × ObjFile) :=
  entries.filterMap fun entry => (entry.2.objects.get? lib).map fun file => (entry.1, file)

def chosen (folders : Folders) (lib : String) : Option (String × ObjFile) :=
  (objectsOf folders.entries lib).foldl better none

variable (files : List (String × ObjFile)) (best : Option (String × ObjFile))

theorem mem_of_foldl_better (found : files.foldl better best = some file) :
  best = some file ∨ file ∈ files := by
  induction files generalizing best with
  | nil => exact .inl found
  | cons next rest ih =>
    rcases ih _ found with taken | later
    · cases best with
      | none =>
        simp only [better, Option.some.injEq] at taken
        exact .inr (by simp [taken])
      | some old =>
        simp only [better] at taken
        split at taken
        · simp only [Option.some.injEq] at taken
          exact .inr (by simp [taken])
        · exact .inl taken
    · exact .inr (List.mem_cons_of_mem _ later)

theorem foldl_better_none (found : files.foldl better best = none) : best = none ∧ files = [] := by
  induction files generalizing best with
  | nil => exact ⟨found, rfl⟩
  | cons next rest ih =>
    obtain ⟨impossible, _⟩ := ih _ found
    cases best with
    | none => simp [better] at impossible
    | some old =>
      simp only [better] at impossible
      split at impossible <;> cases impossible

theorem mem_objectsOf_iff (folders : Folders) (lib name : String) (file : ObjFile) :
  (name, file) ∈ objectsOf folders.entries lib ↔ fileAt folders name lib = some file := by
  simp only [objectsOf, List.mem_filterMap, fileAt, Option.bind_eq_some_iff,
    Dict.get?_eq_some_iff folders, Option.map_eq_some_iff, Prod.mk.injEq]
  constructor
  · rintro ⟨⟨other, folder⟩, member, stored, found, rfl, rfl⟩
    exact ⟨folder, member, found⟩
  rintro ⟨folder, member, found⟩
  exact ⟨(name, folder), member, file, found, rfl, rfl⟩

theorem fileAt_of_chosen (found : chosen folders lib = some (name, file)) :
  fileAt folders name lib = some file := by
  rcases mem_of_foldl_better _ _ found with impossible | member
  · cases impossible
  · exact (mem_objectsOf_iff folders lib name file).mp member

theorem chosen_ne_none (found : fileAt folders name lib = some file) : chosen folders lib ≠ none := by
  intro absent
  have empty := (foldl_better_none _ _ absent).2
  have member := (mem_objectsOf_iff folders lib name file).mpr found
  rw [empty] at member
  cases member

theorem get?_mapFolder : (mapFolder objsFiles entry).get? lib = ((entry.2.objects.get? lib).map fun file =>
      takeBiggest entry.1 file.fileSize (objsFiles.get? lib)).or (objsFiles.get? lib) := by
  have all := Dict.get?_foldl_alter (fun (_ : String) (file : ObjFile) =>
    takeBiggest entry.1 file.fileSize) entry.2.listing.entries entry.2.listing.distinct
    objsFiles lib
  have listed : Dict.lookup lib entry.2.listing.entries = entry.2.objects.get? lib :=
    entry.2.objects.get?_sortBy _ lib
  rw [listed] at all
  exact all

theorem get?_objsFilesOf :
  (objsFilesOf folders).get? lib = (chosen folders lib).map fun file => (file.1, file.2.fileSize) := by
  have run : ∀ (entries : List (String × Folder)) (objsFiles : ObjsFiles)
      (best : Option (String × ObjFile)),
      objsFiles.get? lib = best.map (fun file => (file.1, file.2.fileSize)) →
      (entries.foldl mapFolder objsFiles).get? lib =
        ((objectsOf entries lib).foldl better best).map fun file => (file.1, file.2.fileSize) := by
    intro entries
    induction entries with
    | nil => intro objsFiles best agree; exact agree
    | cons entry rest ih =>
      intro objsFiles best agree
      rw [List.foldl_cons]
      cases found : entry.2.objects.get? lib with
      | none =>
        have skipped : objectsOf (entry :: rest) lib = objectsOf rest lib := by
          simp [objectsOf, found]
        rw [skipped]
        refine ih _ _ ?_
        rw [get?_mapFolder, found, Option.map_none, Option.none_or]
        exact agree
      | some file =>
        have taken : objectsOf (entry :: rest) lib = (entry.1, file) :: objectsOf rest lib := by
          simp [objectsOf, found]
        rw [taken, List.foldl_cons]
        refine ih _ _ ?_
        rw [get?_mapFolder, found, agree]
        cases best with
        | none => rfl
        | some old =>
          simp only [Option.map_some, Option.some_or, takeBiggest, better]
          split <;> rfl
  exact run folders.entries Dict.empty none rfl

structure Kept (original folders : Folders) : Prop where
  winner : ∀ {lib name file}, chosen original lib = some (name, file) → fileAt folders name lib = some file
  known : ∀ {lib name file}, fileAt folders name lib = some file → chosen original lib ≠ none

theorem Kept.refl (folders : Folders) : Kept folders folders :=
  ⟨fileAt_of_chosen, chosen_ne_none⟩

theorem fileAt_set : fileAt (folders.set name folder) query lib =
    if query = name then folder.objects.get? lib else fileAt folders query lib := by
  rw [fileAt, Dict.get?_set]
  split <;> rfl

theorem fileAt_of_get? (found : folders.get? name = some own) (lib : String) :
  fileAt folders name lib = own.objects.get? lib := by
  rw [fileAt, found]
  rfl

theorem openFolder_ok (opened : openFolder folders name = .ok folder) :
  folders.get? name = some folder := by
  rw [openFolder] at opened
  split at opened
  · rename_i found
    cases opened
    exact found
  · cases opened

theorem openObject_ok (opened : openObject folder lib = .ok file) :
  folder.objects.get? lib = some file := by
  rw [openObject] at opened
  split at opened
  · rename_i found
    cases opened
    exact found
  · cases opened

structure Replaced (name : String) (content : String → Option ObjFile)
  (folders after : Folders) : Prop where
  others : ∀ query, query ≠ name → after.get? query = folders.get? query
  content : ∀ lib, fileAt after name lib = content lib

theorem createParamFiles_cases (done : createParamFiles libname app own uk = .ok (own', uk')) :
  (libname ∈ own.paramLds ∧ own' = own ∧ uk' = uk) ∨
  (libname ∉ own.paramLds ∧ paramLib ∈ own.objects.keys ∧
    own' = { own with paramLds := libname :: own.paramLds } ∧ uk' = uk) ∨
  (libname ∉ own.paramLds ∧ paramLib ∉ own.objects.keys ∧ ∃ file, app.objects.get? paramLib = some file ∧
      own' = ⟨own.objects.set paramLib file, libname :: own.paramLds, true⟩ ∧
      uk' = if own.paramDir then uk else uk.addParam) := by
  rw [createParamFiles] at done
  by_cases present : libname ∈ own.paramLds
  · rw [if_pos present] at done
    cases done
    exact .inl ⟨present, rfl, rfl⟩
  rw [if_neg present] at done
  split at done
  · rw [copyParamObject] at done
    dsimp only at done
    by_cases has : paramLib ∈ own.objects.keys
    · rw [if_pos has] at done
      cases done
      exact .inr (.inl ⟨present, has, rfl, rfl⟩)
    rw [if_neg has] at done
    obtain ⟨file, opened, done⟩ := ok_of_bind done
    refine .inr (.inr ⟨present, has, file, openObject_ok opened, ?_⟩)
    rw [copyParamDir] at done
    cases dir : own.paramDir with
    | true =>
      simp only [dir, if_true] at done
      cases done
      exact ⟨rfl, rfl⟩
    | false =>
      simp only [dir, Bool.false_eq_true, if_false] at done
      split at done
      · cases done
        exact ⟨rfl, rfl⟩
      · cases done
  · cases done

def Folder.needsParam (folder : Folder) : Bool :=
  (decide ("libvfscore" ∉ folder.paramLds) || decide ("libuknetdev" ∉ folder.paramLds)) &&
    decide (paramLib ∉ folder.objects.keys) && !folder.paramDir

section

variable (kept : Kept original folders)
include kept

theorem Kept.set (found : folders.get? name = some own)
  (change : ∀ lib, new.objects.get? lib = own.objects.get? lib ∨
    ∃ path file, chosen original lib = some (path, file) ∧ path ≠ name) :
  Kept original (folders.set name new) := by
  constructor
  · intro lib winner file best
    rw [fileAt_set]
    split
    · rename_i here
      subst here
      rcases change lib with same | ⟨path, other, elsewhere, differs⟩
      · rw [same, ← fileAt_of_get? found]
        exact kept.winner best
      rw [best, Option.some.injEq, Prod.mk.injEq] at elsewhere
      exact absurd elsewhere.1.symm differs
    · exact kept.winner best
  intro lib query file stored
  rw [fileAt_set] at stored
  split at stored
  · rcases change lib with same | ⟨path, other, elsewhere, _⟩
    · rw [same, ← fileAt_of_get? found] at stored
      exact kept.known stored
    rw [elsewhere]
    exact Option.some_ne_none _
  · exact kept.known stored

theorem copyObject_spec (known : chosen original obj ≠ none)
  (done : copyObject (objsFilesOf original) name folders obj = .ok after) :
  Kept original after ∧ Replaced name (fun lib => if lib = obj then (chosen original obj).map Prod.snd
      else fileAt folders name lib) folders after := by
  obtain ⟨⟨path, file⟩, best⟩ := Option.ne_none_iff_exists'.mp known
  rw [copyObject, get?_objsFilesOf, best] at done
  simp only [Option.map_some] at done
  obtain ⟨own, ownOpen, done⟩ := ok_of_bind done
  obtain ⟨source, sourceOpen, done⟩ := ok_of_bind done
  obtain ⟨copy, copyOpen, done⟩ := ok_of_bind done
  obtain ⟨_, _, done⟩ := ok_of_bind done
  have ownFound := openFolder_ok ownOpen
  have sourceFile : copy = file := by
    have stored := fileAt_of_get? (openFolder_ok sourceOpen) obj
    rw [kept.winner best, openObject_ok copyOpen] at stored
    exact (Option.some.inj stored).symm
  subst sourceFile
  by_cases here : path = name
  · subst here
    rw [if_pos rfl] at done
    cases done
    refine ⟨kept, fun _ _ => rfl, fun lib => ?_⟩
    split
    · rename_i same
      subst same
      rw [kept.winner best, best]
      rfl
    · rfl
  rw [if_neg here] at done
  cases done
  refine ⟨kept.set ownFound fun lib => ?_, fun query other => ?_, fun lib => ?_⟩
  · by_cases same : lib = obj
    · subst same
      exact .inr ⟨path, copy, best, here⟩
    · exact .inl (by rw [Dict.get?_set, if_neg same])
  · rw [Dict.get?_set, if_neg other]
  rw [fileAt_set, if_pos rfl, Dict.get?_set, best, fileAt_of_get? ownFound]
  rfl

theorem copyObjects_spec (objs : List String) (known : ∀ obj ∈ objs, chosen original obj ≠ none)
  (done : objs.foldlM (copyObject (objsFilesOf original) name) folders = .ok after) :
  Kept original after ∧ Replaced name (fun lib => if lib ∈ objs then (chosen original lib).map Prod.snd
      else fileAt folders name lib) folders after := by
  induction objs generalizing folders with
  | nil =>
    cases done
    exact ⟨kept, fun _ _ => rfl, fun lib => by simp⟩
  | cons obj rest ih =>
    rw [List.foldlM_cons] at done
    obtain ⟨middle, first, done⟩ := ok_of_bind done
    obtain ⟨keptMiddle, one⟩ := copyObject_spec kept (known obj (by simp)) first
    obtain ⟨keptAfter, all⟩ := ih keptMiddle
      (fun other member => known other (List.mem_cons_of_mem _ member)) done
    refine ⟨keptAfter, fun query other => (all.others query other).trans (one.others query other),
      fun lib => ?_⟩
    rw [all.content, one.content]
    by_cases later : lib ∈ rest
    · simp [later]
    by_cases same : lib = obj
    · subst same
      simp
    · simp [later, same]

/-! The parameter library, which a unikernel may get although it had none. -/

variable {uk : Unikernel} (found : folders.get? uk.name = some own)
include found

theorem copyParams_spec
  (done : copyParams (objsFilesOf original) (folders, uk) libname = .ok state) :
  ∃ app own', createParamFiles libname app own uk = .ok (own', state.2) ∧
    state.2.name = uk.name ∧ state.1.get? uk.name = some own' ∧
    (∀ query, query ≠ uk.name → state.1.get? query = folders.get? query) ∧
    Kept original state.1 ∧
    (paramLib ∉ own.objects.keys → libname ∉ own.paramLds → chosen original paramLib ≠ none) := by
  obtain ⟨path, _, done⟩ := ok_of_bind done
  obtain ⟨opened, ownOpen, done⟩ := ok_of_bind done
  obtain ⟨app, appOpen, done⟩ := ok_of_bind done
  obtain ⟨⟨own', uk'⟩, created, done⟩ := ok_of_bind done
  have same : opened = own := Option.some.inj ((openFolder_ok ownOpen).symm.trans found)
  subst same
  have sameName : uk'.name = uk.name := by
    rcases createParamFiles_cases created with ⟨_, _, rfl⟩ | ⟨_, _, _, rfl⟩ | ⟨_, _, _, _, _, rfl⟩
    · rfl
    · rfl
    · split <;> rfl
  have known : ∀ file, app.objects.get? paramLib = some file → chosen original paramLib ≠ none :=
    fun file stored => kept.known ((fileAt_of_get? (openFolder_ok appOpen) paramLib).trans stored)
  cases done
  refine ⟨app, own', created, sameName, ?_, ?_, ?_, ?_⟩
  · rw [Dict.get?_set, if_pos sameName.symm]
  · intro query other
    rw [Dict.get?_set, sameName, if_neg other]
  · rw [sameName]
    refine kept.set found fun lib => ?_
    rcases createParamFiles_cases created with ⟨_, rfl, _⟩ | ⟨_, _, rfl, _⟩ |
      ⟨_, absent, file, stored, rfl, _⟩
    · exact .inl rfl
    · exact .inl rfl
    by_cases param : lib = paramLib
    · subst param
      obtain ⟨⟨winner, best⟩, isBest⟩ := Option.ne_none_iff_exists'.mp (known file stored)
      refine .inr ⟨winner, best, isBest, ?_⟩
      rintro rfl
      have held := kept.winner isBest
      rw [fileAt_of_get? found] at held
      exact absent ((opened.objects.mem_keys_iff paramLib).mpr ⟨best, held⟩)
    · exact .inl (by rw [Dict.get?_set, if_neg param])
  intro absent missing
  rcases createParamFiles_cases created with ⟨present, _⟩ | ⟨_, has, _⟩ | ⟨_, _, file, stored, _⟩
  · exact absurd present missing
  · exact absurd has absent
  · exact known file stored

theorem paramLoop_spec
  (done : ["libvfscore", "libuknetdev"].foldlM (copyParams (objsFilesOf original))
    (folders, uk) = .ok state) :
  Kept original state.1 ∧ (∀ query, query ≠ uk.name → state.1.get? query = folders.get? query) ∧
    state.2 = (if own.needsParam then uk.addParam else uk) ∧
    (own.needsParam = true → chosen original paramLib ≠ none) := by
  simp only [List.foldlM_cons, List.foldlM_nil, bind_pure] at done
  obtain ⟨⟨middle, uk₁⟩, first, second⟩ := ok_of_bind done
  obtain ⟨app₁, own₁, created₁, name₁, found₁, others₁, kept₁, known₁⟩ :=
    copyParams_spec kept found first
  dsimp only at created₁ name₁ found₁ others₁ kept₁ second
  rw [← name₁] at found₁
  obtain ⟨app₂, own₂, created₂, name₂, found₂, others₂, kept₂, known₂⟩ :=
    copyParams_spec kept₁ found₁ second
  refine ⟨kept₂, ?_, ?_, ?_⟩
  · intro query other
    rw [others₂ query (by rw [name₁]; exact other), others₁ query other]
  · rcases createParamFiles_cases created₁ with ⟨vfscore, rfl, rfl⟩ | ⟨vfscore, has, rfl, rfl⟩ |
      ⟨vfscore, absent, file, _, rfl, rfl⟩
    · rcases createParamFiles_cases created₂ with ⟨netdev, _, same⟩ | ⟨netdev, has, _, same⟩ |
        ⟨netdev, absent, file, _, _, same⟩
      · simp [same, Folder.needsParam, vfscore, netdev]
      · simp [same, Folder.needsParam, has]
      · cases dir : own₁.paramDir <;> simp [same, Folder.needsParam, netdev, absent, dir]
    · rcases createParamFiles_cases created₂ with ⟨_, _, same⟩ | ⟨_, _, _, same⟩ | ⟨_, absent, _⟩
      · simp [same, Folder.needsParam, has]
      · simp [same, Folder.needsParam, has]
      · exact absurd has absent
    have held : paramLib ∈ (own.objects.set paramLib file).keys :=
      (Dict.mem_keys_iff _ _).mpr ⟨file, by simp⟩
    have same : state.2 = if own.paramDir then uk else uk.addParam := by
      rcases createParamFiles_cases created₂ with ⟨_, _, same⟩ | ⟨_, _, _, same⟩ | ⟨_, gone, _⟩
      · exact same
      · exact same
      · exact absurd held gone
    cases dir : own.paramDir <;> simp [same, Folder.needsParam, vfscore, absent, dir]
  intro needs
  simp only [Folder.needsParam, Bool.and_eq_true, Bool.or_eq_true, decide_eq_true_eq] at needs
  obtain ⟨⟨missing, absent⟩, _⟩ := needs
  rcases missing with vfscore | netdev
  · exact known₁ absent vfscore
  rcases createParamFiles_cases created₁ with ⟨_, rfl, _⟩ | ⟨_, has, _⟩ | ⟨vfscore, _⟩
  · exact known₂ absent netdev
  · exact absurd has absent
  · exact known₁ absent vfscore

omit kept found

end

variable (original : Folders) (uk : Unikernel)

def Unikernel.linkedIn : Unikernel :=
  match original.get? uk.name with
  | some own => if useParams original && own.needsParam then uk.addParam else uk
  | none => uk

theorem Unikernel.linkedIn_name : (uk.linkedIn original).name = uk.name := by
  rw [linkedIn]
  split
  · split <;> rfl
  · rfl

theorem Unikernel.linkedIn_totalSize : (uk.linkedIn original).totalSize = uk.totalSize := by
  rw [linkedIn]
  split
  · split <;> rfl
  · rfl

def Uniform (folders : Folders) (uk : Unikernel) : Prop :=
  ∀ lib ∈ uk.objects, fileAt folders uk.name lib = (chosen original lib).map Prod.snd

theorem Unikernel.mem_addParam {uk : Unikernel} (member : lib ∈ uk.addParam.objects) :
  lib ∈ uk.objects ∨ lib = paramLib := by
  simp only [addParam] at member
  split at member
  · exact .inl member
  · simpa using member

variable {original}

theorem copyUnikernel_spec (kept : Kept original folders) {uk : Unikernel}
  (found : folders.get? uk.name = some own) (untouched : original.get? uk.name = some own)
  (listed : ∀ lib ∈ uk.objects, chosen original lib ≠ none)
  (done : copyUnikernel (objsFilesOf original) (useParams original) folders uk = .ok state) :
  Kept original state.1 ∧ (∀ query, query ≠ uk.name → state.1.get? query = folders.get? query) ∧
    state.2 = uk.linkedIn original ∧ Uniform original state.1 state.2 := by
  obtain ⟨⟨middle, uk'⟩, params, done⟩ := ok_of_bind done
  dsimp only at done
  obtain ⟨after, copied, done⟩ := ok_of_bind done
  cases done
  have prepared : Kept original middle ∧
      (∀ query, query ≠ uk.name → middle.get? query = folders.get? query) ∧
      uk' = uk.linkedIn original ∧ ∀ lib ∈ uk'.objects, chosen original lib ≠ none := by
    rw [Unikernel.linkedIn, untouched]
    cases uses : useParams original with
    | false =>
      rw [uses] at params
      cases params
      exact ⟨kept, fun _ _ => rfl, rfl, listed⟩
    | true =>
      rw [uses] at params
      obtain ⟨keptMiddle, others, same, known⟩ := paramLoop_spec kept found params
      refine ⟨keptMiddle, others, by simpa using same, fun lib member => ?_⟩
      dsimp only at same
      rw [same] at member
      split at member
      · rename_i needs
        rcases Unikernel.mem_addParam member with old | rfl
        · exact listed lib old
        · exact known needs
      · exact listed lib member
  obtain ⟨keptMiddle, others, same, known⟩ := prepared
  have sameName : uk'.name = uk.name := by rw [same, Unikernel.linkedIn_name]
  obtain ⟨keptAfter, replaced⟩ := copyObjects_spec keptMiddle uk'.objects known copied
  refine ⟨keptAfter, fun query other => ?_, same, fun lib member => ?_⟩
  · exact (replaced.others query (sameName ▸ other)).trans (others query other)
  · rw [replaced.content, if_pos member]

theorem copyAllObjs_spec (distinct : (uks.map Unikernel.name).Nodup)
  (listed : ∀ uk ∈ uks, ∀ lib ∈ uk.objects, chosen original lib ≠ none)
  (present : ∀ uk ∈ uks, original.get? uk.name ≠ none) (kept : Kept original folders)
  (untouched : ∀ uk ∈ uks, folders.get? uk.name = original.get? uk.name)
  (done : copyAllObjs (objsFilesOf original) (useParams original) folders uks = .ok state) :
  (∀ query, query ∉ uks.map Unikernel.name → state.1.get? query = folders.get? query) ∧
    state.2 = uks.map (Unikernel.linkedIn original) ∧
    ∀ uk ∈ state.2, Uniform original state.1 uk := by
  induction uks generalizing folders state with
  | nil =>
    cases done
    exact ⟨fun _ _ => rfl, rfl, by simp⟩
  | cons uk rest ih =>
    simp only [List.map_cons, List.nodup_cons] at distinct
    obtain ⟨⟨middle, uk'⟩, first, done⟩ := ok_of_bind done
    dsimp only at done
    obtain ⟨⟨after, rest'⟩, later, done⟩ := ok_of_bind done
    cases done
    obtain ⟨own, here⟩ := Option.ne_none_iff_exists'.mp (present uk (by simp))
    obtain ⟨keptMiddle, others, same, uniform⟩ := copyUnikernel_spec kept
      ((untouched uk (by simp)).trans here) here (listed uk (by simp)) first
    dsimp only at others same uniform
    have differs : ∀ other ∈ rest, other.name ≠ uk.name := fun other member equal =>
      distinct.1 (equal ▸ List.mem_map_of_mem member)
    obtain ⟨outside, all, uniformRest⟩ := ih distinct.2
      (fun other member => listed other (List.mem_cons_of_mem _ member))
      (fun other member => present other (List.mem_cons_of_mem _ member)) keptMiddle
      (fun other member => (others _ (differs other member)).trans
        (untouched other (List.mem_cons_of_mem _ member))) later
    dsimp only at outside all uniformRest
    refine ⟨fun query absent => ?_, ?_, ?_⟩
    · simp only [List.map_cons, List.mem_cons, not_or] at absent
      exact (outside query absent.2).trans (others query absent.1)
    · rw [List.map_cons, ← all, ← same]
    simp only [List.forall_mem_cons]
    refine ⟨fun lib member => ?_, uniformRest⟩
    -- the later unikernels write to their own folders only
    have sameName : uk'.name = uk.name := by rw [same, Unikernel.linkedIn_name]
    have still : after.get? uk'.name = middle.get? uk'.name := by
      refine outside _ ?_
      rw [sameName]
      exact distinct.1
    rw [fileAt, still]
    exact uniform lib member

end Spacer.Aligner
