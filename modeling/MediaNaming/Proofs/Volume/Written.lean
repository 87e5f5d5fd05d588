import MediaNaming.Proofs.Volume.Growth
/-!
# Files that have been written

A file that is written may be new. Its path was followed before the file was there, so what has
to be shown is that the same path leads to the new entry; the octets are then those that were
given.
-/

namespace MediaNaming.Volume

variable {v w : Volume} {cwd p : Path} {l : Location}
  {change : List UInt8 → List UInt8} {bs : List UInt8} {text : String}

/-- A new file is found at the path that was followed to its place. -/
theorem find_addFile (reached : v.reach .made cwd p = .ok l) (absent : v.entry? l = none)
    (bs : List UInt8) : (v.addFile l bs).find .followed cwd p = .ok l := by
  obtain ⟨clean, short, walked⟩ := reach_ok reached
  have free : entry? (v.setContent v.freshId bs) l = none := by
    rw [entry?_setContent, absent]
  have placed : entry? (v.addFile l bs) l = some (.file v.freshId) := by
    rw [addFile, entry?_add free, if_pos rfl]
  have kept : Keeps v (v.addFile l bs) := fun k f there _ =>
    entry?_add_of_present free _ there
  exact find_of_walk clean short (walk_keeps kept (walk_made walked) placed (by simp)) placed

/-- After a change the path leads to a file with the changed octets. -/
theorem read?_update (updated : v.update? cwd p change = .ok w) :
    ∃ bs, w.read? cwd p = .ok (change bs) := by
  simp only [update?] at updated
  split at updated
  next => cases updated
  next l reached =>
    split at updated
    next absent =>
      cases updated
      have free : entry? (v.setContent v.freshId (change [])) l = none := by
        rw [entry?_setContent, absent]
      refine ⟨[], read?_eq_ok_iff.mpr ⟨l, v.freshId, find_addFile reached absent _, ?_, ?_⟩⟩
      · rw [addFile, entry?_add free, if_pos rfl]
      · exact (content_setContent v v.freshId v.freshId _).trans (if_pos rfl)
    next id there =>
      cases updated
      obtain ⟨clean, short, walked⟩ := reach_ok reached
      have kept : Keeps v (v.setContent id (change (v.content id))) := fun k f there _ => there
      have found := find_of_walk clean short
        (walk_keeps kept (walk_made walked) there (by simp)) there
      refine ⟨v.content id, read?_eq_ok_iff.mpr ⟨l, id, found, there, ?_⟩⟩
      rw [content_setContent, if_pos rfl]
    next => cases updated

/-- A text that has been written is what the file holds. -/
theorem read?_write (written : v.write? cwd p text = .ok w) :
    w.read? cwd p = .ok (Text.Utf8.octets text) :=
  (read?_update written).elim fun _ read => read

/-- What can be read exists. -/
theorem exists?_of_read (read : v.read? cwd p = .ok bs) : v.exists? cwd p = .ok true := by
  obtain ⟨l, id, found, -, -⟩ := read?_eq_ok_iff.mp read
  simp [exists?, ask, look, found]

/-! ## Files at the root -/

variable {name : String} {id : Nat} (named : Path.IsName name)
  (fits : octetLength name ≤ nameLimit)

theorem makeDirectories_root (v : Volume) :
    v.makeDirectories ⟨.root, []⟩ ⟨.root, []⟩ = ⟨v, none⟩ := by
  have clean : Path.hasNull (Path.text ⟨.root, []⟩) = false := by decide
  have short : ¬pathLimit ≤ octetLength (Path.text ⟨.root, []⟩) := by decide
  have found : v.find .followed ⟨.root, []⟩ ⟨.root, []⟩ = .ok [] := by
    simp [find, reach, clean, short, start, walk, Except.mapError]
  have refused : v.makeDirectory ⟨.root, []⟩ ⟨.root, []⟩ = .error (.code .alreadyThere) := by
    simp [makeDirectory, clean, short, spot?, start, walk]
  simp [makeDirectories, makeParents, refused, settle, isDirectory?, ask, look, found]

include named fits

theorem walk_root {last : LastName} (there : v.entry? [name] = some (.file id)) :
    v.walk last linkLimit [] [name] = .ok [name] := by
  rw [walk]
  simp [named.1, named.2.1, named.2.2.1, Nat.not_lt.mpr fits, there, walk]

theorem update?_root (there : v.entry? [name] = some (.file id))
    (change : List UInt8 → List UInt8) :
    v.update? ⟨.root, []⟩ ⟨.root, [name]⟩ change =
      .ok (v.setContent id (change (v.content id))) := by
  simp [update?, reach, clean_root named, Nat.not_le.mpr (short_root fits), start,
    walk_root named fits there, there, Except.mapError]

end MediaNaming.Volume
