import Tocate.Partida.Floor
import Tocate.Raking.Places

/-!
# The ranking after a match

A match moves its two players only, and not down.  Nobody else gains a place by
it, and a player is overtaken at most by the other one.
-/

namespace Tocate.Partida

open Cloud UserRakingFragment

variable {p : Partida} {db : BaseDatos} {s s' t : Estado} {a : Paso}

/-- Nobody else's record changes. -/
theorem users_ajenos (h : (asientos p).Holds s)
    (hstep : programa.step s a = some s') {y : String} (hy : ∀ l, p.uid l ≠ y) :
    s'.server.users y = s.server.users y := by
  cases a with
  | event k e =>
      obtain ⟨r, -, rfl⟩ := Program.step_event hstep
      rfl
  | arrive k =>
      obtain ⟨w, ws, hbox, rfl⟩ := Program.step_arrive hstep
      apply BaseDatos.aplicar_users_of_ne
      rintro v rfl
      exact hy k (h.outbox k _ (mem_of_eq_cons hbox)).symm
  | confirm k =>
      obtain ⟨w, b, rest, -, rfl⟩ := Program.step_confirm hstep
      rfl
  | deliver k =>
      obtain ⟨d, rest, -, rfl⟩ := Program.step_deliver hstep
      rfl
  | skip k =>
      obtain ⟨d, rest, -, rfl⟩ := Program.step_skip hstep
      rfl

/-- What a run keeps whose taps can all be paid: the players have no fewer
points than at first, and all others are as they were. -/
structure Mejoran (p : Partida) (db : BaseDatos) (s : Estado) : Prop where
  solvencia : p.Solvencia s
  alCorriente : ∀ l, db.users (p.uid l) ≠ none → p.AlCorriente l s
  sinBaja : ∀ l, SinBaja (p.uid l) db s.server
  ajenos : ∀ y, (∀ l, p.uid l ≠ y) → s.server.users y = db.users y

theorem mejoran_inicial {invitacionID : String}
    (hdb : db.jugadas p.jugadaId = some (Jugada.nueva p.uno invitacionID)) :
    p.Mejoran db (p.inicial db) := by
  have hinit := solvencia_inicial hdb
  refine ⟨hinit, fun l hl => ?_, fun l => sinBaja_of_eq rfl, fun _ _ => rfl⟩
  obtain ⟨u₀, hu₀⟩ := Option.ne_none_iff_exists'.mp hl
  exact ⟨⟨u₀, 0, credito_inicial hinit.asientos.server hu₀⟩, trivial⟩

theorem Mejoran.step (h : p.Mejoran db s) (hok : Paga s a)
    (hstep : programa.step s a = some s') : p.Mejoran db s' := by
  refine ⟨h.solvencia.step hok hstep, fun l hl => ?_, fun l u hu => ?_,
    fun y hy => ?_⟩
  · exact ((h.alCorriente l hl).step h.solvencia.suelo hstep).1
  · have hl : db.users (p.uid l) ≠ none := by
      rw [hu]
      exact Option.some_ne_none u
    obtain ⟨u', hu', hle⟩ := h.sinBaja l u hu
    obtain ⟨u'', hu'', hle'⟩ :=
      ((h.alCorriente l hl).step h.solvencia.suelo hstep).2 u' hu'
    exact ⟨u'', hu'', hle.trans hle'⟩
  · exact (users_ajenos h.solvencia.asientos hstep hy).trans (h.ajenos y hy)

/-- Everybody has at least the points he had. -/
theorem Mejoran.suben (h : p.Mejoran db s) {y : String} {v : User}
    (hv : db.users y = some v) :
    ∃ v', s.server.users y = some v' ∧ v.points ≤ v'.points := by
  by_cases hy : ∀ l, p.uid l ≠ y
  · exact ⟨v, (h.ajenos y hy).trans hv, Int.le_refl _⟩
  · obtain ⟨l, hl⟩ := not_forall.mp hy
    rw [not_not] at hl
    subst hl
    exact h.sinBaja l v hv

/-- Who does not play has at least those ahead that he had. -/
theorem Mejoran.delante_ajeno (h : p.Mejoran db s) {z : String}
    (hz : ∀ l, p.uid l ≠ z) : delante db z ⊆ delante s.server z := by
  apply Ranking.aheadIn_mono (h.ajenos z hz)
  intro y v hv
  obtain ⟨v', hv', hle⟩ := h.suben hv
  exact ⟨v', hv', clave_le_of_points hle⟩

/-- A player has nobody new ahead but the other. -/
theorem Mejoran.delante_jugador (h : p.Mejoran db s) {l : Lado}
    (hl : db.users (p.uid l) ≠ none) :
    delante s.server (p.uid l) ⊆
      delante db (p.uid l) ∪ {p.uid l.otro} := by
  obtain ⟨u, hu⟩ := Option.ne_none_iff_exists'.mp hl
  obtain ⟨u', hu', hle⟩ := h.sinBaja l u hu
  refine Ranking.aheadIn_subset_of_le hu hu' (clave_le_of_points hle) ?_
  intro y hotro hy
  apply h.ajenos
  intro k
  rcases Lado.eq_or_eq_otro l k with rfl | rfl
  · exact hy.symm
  · exact fun heq => hotro heq.symm

theorem mejoran_run {invitacionID : String} {acts : List Paso}
    (hdb : db.jugadas p.jugadaId = some (Jugada.nueva p.uno invitacionID))
    (hrun : Runs.run programa.step (p.inicial db) acts = some t)
    (hpaga : Runs.Along programa.step Paga (p.inicial db) acts) :
    p.Mejoran db t :=
  Runs.invariant (fun _ _ _ hs hok hstep => Mejoran.step hs hok hstep)
    (mejoran_inicial hdb) hpaga hrun

/-- In every run of a match from its new document whose taps can all be paid,
nobody who does not play moves up in the ranking, and a player moves down by one
place at most, which the other player takes. -/
theorem puestos_tras_partida {invitacionID : String} {acts : List Paso}
    {antes despues : List (String × User)}
    (hdb : db.jugadas p.jugadaId = some (Jugada.nueva p.uno invitacionID))
    (hrun : Runs.run programa.step (p.inicial db) acts = some t)
    (hpaga : Runs.Along programa.step Paga (p.inicial db) acts)
    (hantes : Ranking.Lists antes db.users)
    (hdespues : Ranking.Lists despues t.server.users) :
    (∀ z, (∀ l, p.uid l ≠ z) → delante db z ⊆ delante t.server z ∧
      (delante db z).ncard ≤ (delante t.server z).ncard) ∧
    ∀ l, db.users (p.uid l) ≠ none →
      delante t.server (p.uid l) ⊆ delante db (p.uid l) ∪ {p.uid l.otro} ∧
        (delante t.server (p.uid l)).ncard ≤ (delante db (p.uid l)).ncard + 1 := by
  have hfin : p.Mejoran db t := mejoran_run hdb hrun hpaga
  constructor
  · intro z hz
    have hsub := hfin.delante_ajeno hz
    exact ⟨hsub, Set.ncard_le_ncard hsub (hdespues.finite_aheadIn z)⟩
  · intro l hl
    have hsub := hfin.delante_jugador hl
    refine ⟨hsub, ?_⟩
    calc
      (delante t.server (p.uid l)).ncard ≤
          (delante db (p.uid l) ∪ {p.uid l.otro}).ncard :=
        Set.ncard_le_ncard hsub ((hantes.finite_aheadIn _).union
          (Set.finite_singleton _))
      _ ≤ (delante db (p.uid l)).ncard + ({p.uid l.otro} : Set String).ncard :=
        Set.ncard_union_le _ _
      _ = (delante db (p.uid l)).ncard + 1 := by rw [Set.ncard_singleton]

/-- Ana's match ends, and her point is added to the five she had. -/
def cobraAna : List Paso :=
  pagaAna ++
    [.event .uno (.mult (.onFinish 0)), .arrive .uno, .arrive .uno,
      .arrive .uno, .arrive .uno, .arrive .uno]

/-- Blas was first, as his id is the greater one; Ana takes his place. -/
theorem puestos_tras_partida_ana :
    ∃ t, Runs.run programa.step (deAyB.inicial baseNueva) cobraAna = some t ∧
      "a" ∈ delante t.server "b" ∧
      delante t.server "b" ⊆ delante baseNueva "b" ∪ {"a"} ∧
      (delante t.server "b").ncard ≤ (delante baseNueva "b").ncard + 1 := by
  obtain ⟨t, hrun, husers⟩ := Option.map_eq_some_iff.mp
    (show (Runs.run programa.step (deAyB.inicial baseNueva) cobraAna).map
        (fun s => (s.server.users "a", s.server.users "b")) =
      some (some { User.nuevo "Ana" 6 1 "" with Online := some "on" },
        some (User.nuevo "Blas" 5 0 "")) by decide)
  obtain ⟨hana, hblas⟩ := Prod.mk.inj husers
  have hnueva : baseNueva.jugadas deAyB.jugadaId =
      some (Jugada.nueva deAyB.uno "") := rfl
  have hpaga : Runs.Along programa.step Paga (deAyB.inicial baseNueva)
      cobraAna := by decide
  have hvacia : ∀ k, k ≠ "a" → k ≠ "b" → baseNueva.users k = none := by
    intro k ha hb
    simp [baseNueva, BaseDatos.conUser, BaseDatos.vacia, ha, hb]
  have hajenos : ∀ k, k ≠ "a" → k ≠ "b" → t.server.users k = none := by
    intro k ha hb
    refine ((mejoran_run hnueva hrun hpaga).ajenos k fun l => ?_).trans
      (hvacia k ha hb)
    cases l with
    | uno => exact ha.symm
    | dos => exact hb.symm
  have hfin := (puestos_tras_partida hnueva hrun hpaga
    (Ranking.lists_pair (by decide) rfl rfl hvacia)
    (Ranking.lists_pair (by decide) hana hblas hajenos)).2 .dos (by decide)
  refine ⟨t, hrun, ?_, hfin.1, hfin.2⟩
  exact (mem_delante hblas).mpr ⟨_, hana, Or.inl (by decide)⟩

end Tocate.Partida
