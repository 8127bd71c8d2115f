import Tocate.FindGame.Facts
import Mathlib.Data.List.TakeWhile

/-!
# One reply of the free search

The loop over the games found decides game by game: one that suits is claimed
and ends it, and one that does not makes the screen create a game of its own.
How many games a search creates is therefore the number of games that stand
before the first one that suits.
-/

namespace Tocate.FindGame

/-- The search does one thing: it claims the first game that suits, or it
creates one game. -/
def UnSoloResultado (uid : String) (docs : List (String × Jugada))
    (ws : List Escritura) : Prop :=
  match encontrada uid docs with
  | some p => ws = [reclama uid p]
  | none => ∃ id, ws = [.addJugada id (Jugada.nueva uid "")]

/-- At most one game is found, or the first one suits. -/
def EmpiezaBien (uid : String) (docs : List (String × Jugada)) : Prop :=
  docs.length ≤ 1 ∨ ∃ p ∈ docs.head?, Conviene uid p = true

/-- A game is found exactly where something ends the games passed over. -/
theorem descartadas_of_none {uid : String} {docs : List (String × Jugada)}
    (h : encontrada uid docs = none) : descartadas uid docs = docs := by
  refine List.takeWhile_eq_self_iff.mpr fun p hp => ?_
  have hno := List.find?_eq_none.mp h p hp
  simpa using hno

theorem descartadas_eq_nil_iff {uid : String} {docs : List (String × Jugada)} :
    descartadas uid docs = [] ↔
      docs = [] ∨ ∃ p ∈ docs.head?, Conviene uid p = true := by
  cases docs with
  | nil => simp [descartadas]
  | cons p docs => simp [descartadas, List.takeWhile_cons]

/-- The search does one thing exactly for the lists that have at most one game
or begin with one that suits. -/
theorem un_solo_resultado_iff (docs : List (String × Jugada))
    (nuevas : List String) (f : FindGame) :
    UnSoloResultado f.uid docs (onComplete docs nuevas f).writes ↔
      EmpiezaBien f.uid docs := by
  obtain ⟨ids, hlen, heq⟩ := onComplete_eq docs nuevas f
  unfold UnSoloResultado EmpiezaBien
  rw [heq]
  cases hp : encontrada f.uid docs with
  | some p =>
      have hdocs : docs ≠ [] := by
        rintro rfl
        exact absurd hp nofun
      rw [if_neg hdocs, Nat.max_zero] at hlen
      have hids : (ids.map fun id => Escritura.addJugada id
          (Jugada.nueva f.uid "")) ++ [reclama f.uid p] = [reclama f.uid p] ↔
          descartadas f.uid docs = [] := by
        rw [List.append_left_eq_self, List.map_eq_nil_iff,
          ← List.length_eq_zero_iff, hlen, List.length_eq_zero_iff]
      simp only [Option.map_some, Option.toList_some]
      rw [hids, descartadas_eq_nil_iff]
      constructor
      · exact fun h => Or.inr (h.resolve_left hdocs)
      · rintro (hone | hhead)
        · -- the only game is the one that has been found
          obtain ⟨q, rfl⟩ := List.length_eq_one_iff.mp
            (Nat.le_antisymm hone (List.length_pos_iff.mpr hdocs))
          have hq := List.find?_some hp
          rw [List.mem_singleton.mp (List.mem_of_find?_eq_some hp)] at hq
          exact Or.inr ⟨q, rfl, hq⟩
        · exact Or.inr hhead
  | none =>
      have hcount : (∃ id, (ids.map fun id => Escritura.addJugada id
          (Jugada.nueva f.uid "")) = [.addJugada id (Jugada.nueva f.uid "")]) ↔
          ids.length = 1 := by
        constructor
        · rintro ⟨id, hid⟩
          rw [← List.length_map, hid]
          rfl
        · intro hone
          obtain ⟨id, rfl⟩ := List.length_eq_one_iff.mp hone
          exact ⟨id, rfl⟩
      have hno : ¬∃ p ∈ docs.head?, Conviene f.uid p = true := by
        rintro ⟨p, hp', hconviene⟩
        exact List.find?_eq_none.mp hp p (List.mem_of_mem_head? hp') hconviene
      simp only [Option.map_none, Option.toList_none, List.append_nil]
      rw [hcount, hlen, descartadas_of_none hp, or_iff_left hno]
      cases docs with
      | nil => simp
      | cons q docs => simp

/-- `a` searches: its own game is listed before the free game of `b`.  It
creates one more game and claims the one of `b` as well. -/
theorem dos_resultados :
    ¬UnSoloResultado "a" [("x", Jugada.nueva "a" ""), ("g", Jugada.nueva "b" "")]
      (onComplete [("x", Jugada.nueva "a" ""), ("g", Jugada.nueva "b" "")]
        ["n₁", "n₂", "n₃"] (nueva "a")).writes := by
  intro h
  have hlen := congrArg List.length h
  exact absurd hlen (by decide)

end Tocate.FindGame
