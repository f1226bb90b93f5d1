/-
What a collection view remembers of its data source.

A view asks for its item count, and goes by the answer until it is asked to
reload; it then asks again before it queries any index.

* `ViewCache.Coherent` — unless a reload is due, the view was last told a given
  count;
* `Coherent.row_lt` — a coherent view queries only rows below that count.
-/
import Mathlib.Data.List.Basic

/-- The item count a collection view was last told, and whether it has been
asked to reload since. -/
structure ViewCache where
  told : Option ℕ := none
  needsReload : Bool := true
  deriving DecidableEq, Repr

namespace ViewCache

def reloadData (cache : ViewCache) : ViewCache := { cache with needsReload := true }

/-- The view asks for its item count and is told `count`. -/
def ask (_ : ViewCache) (count : ℕ) : ViewCache := { told := some count, needsReload := false }

/-- The view may query items: none is due before a reload, and it has `row`. -/
def MayQuery (cache : ViewCache) (row : ℕ) : Prop :=
  cache.needsReload = false ∧ ∃ count, cache.told = some count ∧ row < count

/-- Unless a reload is due, the view was last told `count`. -/
def Coherent (cache : ViewCache) (count : ℕ) : Prop :=
  cache.needsReload = false → cache.told = some count

theorem coherent_ask (cache : ViewCache) (count : ℕ) : (cache.ask count).Coherent count :=
  fun _ => rfl

theorem Coherent.row_lt {cache : ViewCache} {count row : ℕ} (h : cache.Coherent count)
    (hquery : cache.MayQuery row) : row < count := by
  obtain ⟨hreload, told, htold, hrow⟩ := hquery
  rw [h hreload, Option.some_inj] at htold
  omega

end ViewCache
