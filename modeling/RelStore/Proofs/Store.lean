import Mathlib
import RelStore.Proofs.Checkpoint
import RelStore.Proofs.Files.Replace
import RelStore.Proofs.Reachable

/-!
Stores give back what they were given. The bytes of a well-formed catalog are read as that
catalog, in the compact and in the indented layout; and what was saved on a file system is loaded
from it.
-/

namespace RelStore
set_option autoImplicit false
set_option maxRecDepth 4096

theorem fromUTF8?_toUTF8 (s : String) : String.fromUTF8? s.toUTF8 = some s :=
  dif_pos s.isValidUTF8

namespace Store

theorem decode_encode (s : Store) {c : Catalog} (h : c.WellFormed) :
    decode (s.encode c) = .ok c := by
  unfold decode encode
  rw [fromUTF8?_toUTF8]
  dsimp only
  rw [h.ofCheckpoint_checkpoint]
  rfl

theorem load_of_read_eq {σ : Type} [Disk (StateM σ)] {s : Store} {w w' : σ} {content : ByteArray}
    (h : Disk.read (m := StateM σ) s.path w = (.ok (some content), w')) :
    s.load (m := StateM σ) w = (decode content, w') := by
  unfold load
  rw [Database.bind_apply, h]
  rfl

theorem load_of_read {s : Store} {fs : FileSystem} {content : ByteArray}
    (h : fs.read s.path = .ok (some content)) :
    s.load (m := StateM FileSystem) fs = (decode content, fs) :=
  load_of_read_eq (congrArg (·, fs) h)

/-- A catalog whose tables have their rows in column order, told apart by an exact index, is read
back from its bytes and loaded back from where it was saved: the same tables in the same order,
with the same columns, keys, rows and indexes, whatever the layout. -/
theorem load_saved (s : Store) {c : Catalog} (h : c.WellFormed) :
    decode (s.encode c) = .ok c ∧
    ∀ fs fs', s.save (m := StateM FileSystem) c fs = (.ok (), fs') →
      s.load (m := StateM FileSystem) fs' = (.ok c, fs') := by
  refine ⟨s.decode_encode h, fun fs fs' hsave => ?_⟩
  rw [load_of_read (read_of_replaceFile hsave), s.decode_encode h]

/-- A table with a key and a row is saved on an empty disk in the indented layout, and loaded. -/
theorem load_saved_of_one_row :
    ∃ (s : Store) (c : Catalog) (fs fs' : FileSystem), s.layout = .indented ∧ c.WellFormed ∧
      (∃ t, c.tables = [t] ∧ t.rows.length = 1) ∧
      s.save (m := StateM FileSystem) c fs = (.ok (), fs') ∧
      s.load (m := StateM FileSystem) fs' = (.ok c, fs') := by
  obtain ⟨_, _, db, hreach, -, t, ht, -, -, -, hrows⟩ := exists_reachable_of_one_row
  have hreplaced : ∀ content : ByteArray,
      (replaceFile (m := StateM FileSystem) (.ofText "db") 0 content false ⟨.empty, []⟩).1 =
        .ok () := by
    intro content
    cbv
  have hsaved : (Store.save (m := StateM FileSystem) ⟨⟨"db", false, true⟩, 0⟩ db.catalog
      ⟨.empty, []⟩).1 = .ok () := hreplaced _
  rcases hresult : Store.save (m := StateM FileSystem) ⟨⟨"db", false, true⟩, 0⟩ db.catalog
    ⟨.empty, []⟩ with ⟨result, fs'⟩
  rw [hresult] at hsaved
  subst hsaved
  have hlength : t.rows.length = 1 := by
    rw [hrows]
    rfl
  exact ⟨_, db.catalog, ⟨.empty, []⟩, fs', rfl, hreach.wellFormed, ⟨t, ht, hlength⟩, hresult,
    (load_saved _ hreach.wellFormed).2 _ _ hresult⟩

end Store
end RelStore
