/-
What writing a file does to a store.

* `FileStore.write_cases` — a write that succeeds goes to one place, and either leaves the store to
  a device or puts the file there;
* `FileStore.written_of_write` — afterwards the text comes out under the path it was written to, and
  every other file is what it was.
-/
import ErrorScaffold.FileStore

namespace ErrorScaffold.FileStore

/-- The place that a path leads to. -/
def target (store : FileStore) (path : String) : Except SystemFault Location := do
  let (here, last?) ← store.lead path
  place here last?

/-- The file or the device at a location. -/
def fileAt? (store : FileStore) (location : Location) : Option FileEntry :=
  match store.entry? location with
  | some .directory => none
  | entry? => entry?

/-- Whether a path leads to a device. -/
def IsDevice (store : FileStore) (path : String) : Prop :=
  ∃ location refusal?, store.target path = .ok location ∧
    store.entry? location = some (.device refusal?)

/-- The store after a content was written to a path. -/
structure Written (before : FileStore) (path : String) (content : ByteArray)
    (after : FileStore) : Prop where
  /-- Files and devices elsewhere are what they were. -/
  elsewhere : ∀ location, before.target path ≠ .ok location →
    after.fileAt? location = before.fileAt? location
  /-- The content comes out under the path; what goes to a device is gone. -/
  here : (before.IsDevice path ∧ after = before) ∨ after.read path = .ok content

/-! ### What stands where -/

/-- A file is found where it is listed, and only there. -/
theorem fileAt?_eq (store : FileStore) (location : Location) :
    store.fileAt? location
      = if location.isEmpty then none
        else (store.entries.lookup location).filter fun entry => !(entry matches .directory) := by
  unfold fileAt? entry?
  by_cases hempty : location.isEmpty = true
  · rw [if_pos hempty, if_pos hempty]
  · rw [if_neg hempty, if_neg hempty]
    cases store.entries.lookup location with
    | none => cases store.entries.any fun entry => location.isPrefixOf entry.1 <;> rfl
    | some entry => cases entry <;> rfl

/-- A directory is the root, or listed, or not listed and above something that is. -/
theorem entry?_eq_directory_iff {store : FileStore} {location : Location} :
    store.entry? location = some .directory ↔
      location = [] ∨ store.entries.lookup location = some .directory ∨
        store.entries.lookup location = none ∧
          ∃ entry ∈ store.entries, location.isPrefixOf entry.1 = true := by
  unfold entry?
  cases location with
  | nil => simp
  | cons component location => cases store.entries.lookup (component :: location) <;> simp

theorem enter_eq_ok_iff {store : FileStore} {here next : Location} {component : String} :
    store.enter here component = .ok next ↔
      step here component = .ok next ∧ store.entry? next = some .directory := by
  rw [enter]
  cases hstep : step here component with
  | error fault => exact ⟨nofun, nofun⟩
  | ok there =>
    simp only [bind, Except.bind]
    -- the step may go well and lead to what is no directory
    constructor
    · intro h
      split at h
      · next hentry => exact ⟨h, Except.ok.inj h ▸ hentry⟩
      · cases h
      · cases h
    · rintro ⟨h, hentry⟩
      rw [Except.ok.inj h, hentry]

/-! ### Putting a file at a location -/

section put

variable {store : FileStore} {location other : Location} (content : ByteArray)

@[simp] theorem lookup_put_self :
    (store.put location content).entries.lookup location = some (.file content) :=
  List.lookup_cons_self

theorem lookup_put_of_ne (h : other ≠ location) :
    (store.put location content).entries.lookup other = store.entries.lookup other := by
  -- only entries of the location itself are dropped
  have hlookup : ∀ entries : List (Location × FileEntry),
      (entries.filter fun entry => entry.1 != location).lookup other = entries.lookup other := by
    intro entries
    induction entries with
    | nil => rfl
    | cons entry entries ih =>
      by_cases hkey : entry.1 = location
      · have hother : (other == entry.1) = false := beq_eq_false_iff_ne.2 (hkey ▸ h)
        rw [List.filter_cons_of_neg (by simp [hkey]), List.lookup_cons, hother]
        exact ih
      · rw [List.filter_cons_of_pos (by simp [hkey]), List.lookup_cons, List.lookup_cons, ih]
  have hother : (other == location) = false := beq_eq_false_iff_ne.2 h
  rw [put, List.lookup_cons, hother]
  exact hlookup store.entries

@[simp] theorem entry?_put_self (h : location ≠ []) :
    FileStore.entry? (store.put location content) location = some (.file content) := by
  have hempty : ¬location.isEmpty = true := by rwa [List.isEmpty_iff]
  unfold entry?
  rw [if_neg hempty, lookup_put_self]

theorem fileAt?_put_of_ne (h : other ≠ location) :
    (store.put location content).fileAt? other = store.fileAt? other := by
  rw [fileAt?_eq, fileAt?_eq, lookup_put_of_ne content h]

/-- Directories stay directories. -/
theorem entry?_put_of_directory (hlocation : store.entry? location ≠ some .directory)
    (h : store.entry? other = some .directory) :
    FileStore.entry? (store.put location content) other = some .directory := by
  have hne : other ≠ location := by
    rintro rfl
    exact hlocation h
  rw [entry?_eq_directory_iff] at h ⊢
  rw [lookup_put_of_ne content hne]
  refine h.imp_right (Or.imp_right fun ⟨hlookup, entry, hentry, hprefix⟩ => ⟨hlookup, ?_⟩)
  -- what was below the directory is there still, or the new file is in its place
  by_cases hreplaced : entry.1 = location
  · exact ⟨(location, .file content), List.mem_cons_self, hreplaced ▸ hprefix⟩
  · exact ⟨entry, List.mem_cons_of_mem _ (List.mem_filter.2 ⟨hentry, by simpa using hreplaced⟩),
      hprefix⟩

theorem foldlM_enter_put (hlocation : store.entry? location ≠ some .directory)
    {components : List String} {start here : Location}
    (h : components.foldlM store.enter start = .ok here) :
    components.foldlM (store.put location content).enter start = .ok here := by
  -- one component at a time: each leads into a directory, and those stay
  induction components generalizing start with
  | nil => exact h
  | cons component components ih =>
    rw [List.foldlM_cons] at h ⊢
    cases henter : store.enter start component with
    | error fault =>
      rw [henter] at h
      cases h
    | ok next =>
      obtain ⟨hstep, hnext⟩ := enter_eq_ok_iff.1 henter
      rw [henter] at h
      rw [enter_eq_ok_iff.2 ⟨hstep, entry?_put_of_directory content hlocation hnext⟩]
      exact ih h

/-- A path that leads into a directory still leads there. -/
theorem lead_put (hlocation : store.entry? location ≠ some .directory) {path : String}
    {end? : Location × Option String} (h : store.lead path = .ok end?) :
    (store.put location content).lead path = .ok end? := by
  unfold lead at h ⊢
  by_cases hnul : path.contains '\x00' = true
  · rw [if_pos hnul] at h
    cases h
  by_cases hlength : pathLimit ≤ path.utf8ByteSize
  · rw [if_neg hnul, if_pos hlength] at h
    cases h
  by_cases hempty : path.isEmpty = true
  · rw [if_neg hnul, if_neg hlength, if_pos hempty] at h
    cases h
  rw [if_neg hnul, if_neg hlength, if_neg hempty] at h ⊢
  -- the way starts where it did and goes through the same directories
  cases hfold : List.foldlM store.enter (if path.startsWith "/" then [] else store.workingDirectory)
      (((path.splitOn "/").filter fun component => component != "").dropLast) with
  | error fault =>
    simp only [hfold] at h
    cases h
  | ok here =>
    have hafter := foldlM_enter_put content hlocation hfold
    simp only [hfold] at h
    simp only [put] at hafter ⊢
    rw [hafter]
    exact h

theorem target_eq_ok_iff {path : String} {there : Location} :
    store.target path = .ok there ↔
      ∃ here last?, store.lead path = .ok (here, last?) ∧ place here last? = .ok there := by
  rw [target]
  cases store.lead path with
  | error fault => simp [bind, Except.bind]
  | ok end? =>
    constructor
    · exact fun h => ⟨end?.1, end?.2, rfl, h⟩
    · rintro ⟨here, last?, hend, hplace⟩
      cases hend
      exact hplace

theorem target_put (hlocation : store.entry? location ≠ some .directory) {path : String}
    {there : Location} (h : store.target path = .ok there) :
    (store.put location content).target path = .ok there := by
  rw [target_eq_ok_iff] at h ⊢
  obtain ⟨here, last?, hlead, hplace⟩ := h
  exact ⟨here, last?, lead_put content hlocation hlead, hplace⟩

end put

/-! ### Reading and writing -/

theorem read_eq_ok_of_file {store : FileStore} {path : String} {location : Location}
    {content : ByteArray} (htarget : store.target path = .ok location)
    (hslash : endsInSlash path = false)
    (hentry : store.entry? location = some (.file content)) : store.read path = .ok content := by
  obtain ⟨here, last?, hlead, hplace⟩ := target_eq_ok_iff.1 htarget
  rw [read, hlead]
  simp only [bind, Except.bind]
  rw [hplace]
  simp only [hentry, hslash]
  rfl

/-- A write goes to one place, which is no directory; a device there takes it, and otherwise the
file is put there. -/
theorem write_cases {store after : FileStore} {path : String} {content : ByteArray}
    (h : store.write path content = .ok after) :
    endsInSlash path = false ∧ ∃ location, store.target path = .ok location ∧
      store.entry? location ≠ some .directory ∧
        ((after = store ∧ store.entry? location = some (.device none)) ∨
          after = store.put location content) := by
  rw [write] at h
  -- the steps of a write in their order: an error in one of them is the outcome
  cases hlead : store.lead path with
  | error fault =>
    rw [hlead] at h
    cases h
  | ok end? =>
    obtain ⟨here, last?⟩ := end?
    rw [hlead] at h
    simp only [bind, Except.bind] at h
    -- a path that ends in a slash asks for a directory
    by_cases hslash : endsInSlash path = true
    · rw [if_pos hslash] at h
      cases h
    rw [if_neg hslash] at h
    cases hplace : place here last? with
    | error fault =>
      simp only [hplace] at h
      cases h
    | ok location =>
      simp only [hplace] at h
      have htarget : store.target path = .ok location :=
        target_eq_ok_iff.2 ⟨here, last?, hlead, hplace⟩
      refine ⟨Bool.not_eq_true _ ▸ hslash, location, htarget, ?_⟩
      -- what stands at the location decides what becomes of the text
      cases hentry : store.entry? location with
      | none =>
        rw [hentry] at h
        exact ⟨nofun, Or.inr (Except.ok.inj h).symm⟩
      | some entry =>
        rw [hentry] at h
        cases entry with
        -- a file is replaced, and only a device that takes everything leaves no trace
        | file old => exact ⟨nofun, Or.inr (Except.ok.inj h).symm⟩
        | directory => cases h
        | device refusal? =>
          cases refusal? with
          | some refusal => cases h
          | none => exact ⟨nofun, Or.inl ⟨(Except.ok.inj h).symm, rfl⟩⟩

/-- **What is written can be read.**  After a write that succeeds the content comes out under its
path, unless that is a device, and nothing else has changed. -/
theorem written_of_write {before after : FileStore} {path : String} {content : ByteArray}
    (h : before.write path content = .ok after) : before.Written path content after := by
  obtain ⟨hslash, location, htarget, hnot, ⟨rfl, hdevice⟩ | rfl⟩ := write_cases h
  · exact ⟨fun _ _ => rfl, Or.inl ⟨⟨location, none, htarget, hdevice⟩, rfl⟩⟩
  · have hroot : location ≠ [] := by
      rintro rfl
      exact hnot rfl
    refine ⟨fun other hother => fileAt?_put_of_ne content ?_, Or.inr ?_⟩
    · rintro rfl
      exact hother htarget
    · exact read_eq_ok_of_file (target_put content hnot htarget) hslash
        (entry?_put_self content hroot)

/-! ### A name as a path -/

/-- A path of one component stays where one is. -/
theorem lead_name (store : FileStore) :
    store.lead "h" = .ok (store.workingDirectory, some "h") := by
  have hsplit : "h".splitOn "/" = ["h"] := by
    rw [String.splitOn, if_neg (by decide), String.splitOnAux, if_neg (by decide +kernel),
      if_neg (by decide +kernel), String.splitOnAux, if_pos (by decide +kernel)]
    decide +kernel
  have hcomponents : ["h"].filter (fun component => component != "") = ["h"] := by decide +kernel
  have hstart : ¬"h".startsWith "/" = true := by decide +kernel
  unfold lead
  rw [if_neg (by simp), if_neg (by decide +kernel), if_neg (by decide +kernel), hsplit]
  simp only [hcomponents, if_neg hstart]
  rfl

theorem endsInSlash_name : endsInSlash "h" = false := by decide +kernel

theorem write_name (content : ByteArray) :
    ({} : FileStore).write "h" content = .ok (({} : FileStore).put ["h"] content) := by
  unfold write
  rw [lead_name]
  simp only [bind, Except.bind, endsInSlash_name]
  rfl

theorem read_name (content : ByteArray) :
    (({} : FileStore).put ["h"] content).read "h" = .ok content :=
  read_eq_ok_of_file (target_eq_ok_iff.2 ⟨[], some "h", lead_name _, rfl⟩) endsInSlash_name
    (entry?_put_self content (List.cons_ne_nil _ _))

end ErrorScaffold.FileStore
