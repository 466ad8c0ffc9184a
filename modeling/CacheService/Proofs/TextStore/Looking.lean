import CacheService.Proofs.TextStore.Files

/-!
# Looking at the files changes nothing

What reads texts, names and times leaves the files as they are, whether it succeeds or not. Only the
calls that were made to the disk are counted (`Looked`).
-/

namespace CacheService
namespace TextFiles

variable {f f' f'' : TextFiles}

/-- The same files at the same place and time, after more or fewer calls. -/
def Looked (f f' : TextFiles) : Prop :=
  ∃ calls, f' = { f with disk := { f.disk with calls } }

theorem Looked.refl (f : TextFiles) : Looked f f :=
  ⟨f.disk.calls, rfl⟩

theorem Looked.trans (h : Looked f f') (h' : Looked f' f'') : Looked f f'' := by
  obtain ⟨calls, rfl⟩ := h
  obtain ⟨calls', rfl⟩ := h'
  exact ⟨calls', rfl⟩

/-- A call that looks at the tree is counted, and that is all. -/
theorem looked_callFound {α : Type} (f : TextFiles) (path : TreePath)
    (look : FileTree → Except IoError α) :
    Looked f (f.callFound path fun d => d.look look).2 := by
  rcases hc : f.callFound path (fun d => d.look look) with ⟨found, f'⟩
  obtain ⟨rfl, -, -⟩ := callFound_cases hc
  exact ⟨f.disk.calls + 1, rfl⟩

theorem looked_find (f : TextFiles) (key : TextKey) : Looked f (f.find key).2 := by
  unfold find
  cases hp : f.entryPath key with
  | error e => exact .refl f
  | ok path =>
    have hlooked := looked_callFound f path fun t => t.read path
    rcases hc : f.callFound path (fun d => d.look fun t => t.read path) with ⟨e | _ | bytes, f'⟩ <;>
      rw [hc] at hlooked <;> simp only [hc] <;> exact hlooked

theorem looked_modified (f : TextFiles) (key : TextKey) : Looked f (f.modified key).2 := by
  unfold modified
  cases hp : f.entryPath key with
  | error e => exact .refl f
  | ok path => exact looked_callFound f path _

theorem looked_age (f : TextFiles) (key : TextKey) : Looked f (f.age key).2 := by
  have hlooked := looked_modified f key
  unfold age
  rcases hm : f.modified key with ⟨e | _ | time, f'⟩ <;> rw [hm] at hlooked
  · exact hlooked
  · exact hlooked
  · simp only
    split <;> exact hlooked

theorem looked_names (f : TextFiles) (path : TreePath) (directories : Bool) :
    Looked f (f.names path directories).2 :=
  looked_callFound f path _

theorem looked_ids (f : TextFiles) (textType : String) : Looked f (f.ids textType).2 := by
  unfold ids
  cases hp : f.typePath textType with
  | error e => exact .refl f
  | ok path => exact looked_names f path false

theorem looked_textTypes (f : TextFiles) : Looked f f.textTypes.2 :=
  looked_names f f.root true

end TextFiles
end CacheService
