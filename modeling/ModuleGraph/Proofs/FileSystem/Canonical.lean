import ModuleGraph.Proofs.FileSystem.Lookup
import ModuleGraph.Proofs.Path.Clean

/-! Canonical paths seen from absolute anchors. Whatever stands at the joined path stands at the
canonical path, too. A canonical path is clean, and its own canonical path under every anchor. -/

namespace ModuleGraph

open ModuleGraph.Path

namespace World

variable {w : World} {anchor p : Path}

/-- The canonical path of `p`, seen from an absolute anchor, is absolute and clean, and its own
canonical path in every world and under every anchor. It leads to the same file or directory as `p`
joined to the anchor, if anything is there. -/
theorem canonical_path_leads_to_same_place (h : isAbsolute anchor = true) (w : World) (p : Path) :
    let joined := join anchor p
    let q := w.canonical p (some anchor)
    isAbsolute q = true ∧ Clean q ∧
      (∀ (w' : World) anchor', w'.canonical q anchor' = q) ∧
      (w.pathExists joined = true → w.pathExists q = true ∧ w.lookup q = w.lookup joined) := by
  intro joined q
  have hjoined : isAbsolute joined = true := isAbsolute_join p h
  have hq : q = normal joined := canonical_of_anchor h p
  have habs : isAbsolute q = true := hq ▸ isAbsolute_normal hjoined
  refine ⟨habs, hq ▸ clean_normal hjoined, fun w' anchor' => ?_, fun hexists => ?_⟩
  · rw [canonical_of_isAbsolute habs, hq]
    exact normal_normal hjoined
  · rw [hq]
    exact ⟨pathExists_normal hjoined hexists, lookup_normal hjoined hexists⟩

def fileInDirectory : World where
  files := ⟨[(["d".toList], .directory), (["f".toList, "d".toList], .file [])]⟩
  workingDirectory := ['/']
  environment := .empty
  nesting := 100
  isCharacterName _ := false

theorem file_in_directory_under_canonical_path :
    isAbsolute "/d//".toList = true ∧
      fileInDirectory.canonical ".././/d/f".toList (some "/d//".toList) = "/d/f".toList ∧
      fileInDirectory.lookup "/d/f".toList = fileInDirectory.lookup "/d//.././/d/f".toList ∧
      fileInDirectory.pathExists "/d/f".toList = true ∧ Clean "/d/f".toList ∧
      fileInDirectory.canonical "/d/f".toList (some "x".toList) = "/d/f".toList := by
  have hanchor : isAbsolute "/d//".toList = true := by decide
  have hcanonical : fileInDirectory.canonical ".././/d/f".toList (some "/d//".toList) =
      "/d/f".toList := by decide +kernel
  obtain ⟨-, hclean, hfixed, hplace⟩ :=
    canonical_path_leads_to_same_place hanchor fileInDirectory ".././/d/f".toList
  rw [hcanonical] at hclean hfixed hplace
  obtain ⟨hexists, hlookup⟩ := hplace (by decide +kernel)
  exact ⟨hanchor, hcanonical, hlookup, hexists, hclean, hfixed fileInDirectory _⟩

end World
end ModuleGraph
