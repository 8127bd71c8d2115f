import Tocate.FindGame.Device
import Tocate.Lib.Runs

/-!
# The match that is started

Every snapshot with a second player posts a delayed `starGame`, and all of them
start the match with whatever id the one field holds by then.  A search starts
one match, and the right one, in every run in which no such snapshot and no
join comes while a start is due or behind one, and the field keeps its id while
a start is due.

What is remembered of a run is which snapshots the starts go back to.
-/

namespace Tocate.Sala

open Cloud

variable {ι : Type*} [DecidableEq ι]

/-- The games whose snapshots have posted the starts that are still due, the
oldest first; and the matches started, each with the game of its snapshot, if it
goes back to one, and the id it was started with. -/
structure Historia where
  citas : List String := []
  lanzadas : List (Option String × String) := []
deriving DecidableEq, Repr

def Historia.alEvento (f : FindGame) (h : Historia) :
    FindGame.Suceso → Historia
  | .onEvent => { h with citas := h.citas ++ f.avisada.toList }
  | .run =>
      { citas := h.citas.tail
        lanzadas := h.lanzadas ++ [(h.citas.head?, f.jugadaId)] }
  | _ => h

/-- A join that has succeeded starts the match at once. -/
def Historia.alConfirmar (f : FindGame) (h : Historia) (w : Escritura)
    (ok : Bool) : Historia :=
  if f.caida = false ∧ ok = true ∧ w.une ≠ none then
    { h with lanzadas := h.lanzadas ++ [(none, f.jugadaId)] }
  else h

/-- What is remembered of device `i`. -/
def recuerda (i : ι) (s : Estado ι) : Paso ι → Historia → Historia
  | .event k (.busca e), h =>
      if k = i then h.alEvento (s.client i).busca e else h
  | .confirm k, h =>
      if k = i then
        match s.acks i with
        | [] => h
        | (w, ok) :: _ => h.alConfirmar (s.client i).busca w ok
      else h
  | _, h => h

/-- At most one match has been started, with an id, and with the id of the game
whose snapshot has started it. -/
structure UnaPartida (f : FindGame) (h : Historia) : Prop where
  empezadas : f.empezadas = h.lanzadas.map Prod.snd
  una : h.lanzadas.length ≤ 1
  suya : ∀ p ∈ h.lanzadas, p.2 ≠ "" ∧ ∀ g ∈ p.1, p.2 = g

/-- No match has been started and none is about to be. -/
def SinPartida (f : FindGame) : Prop := f.handler = 0 ∧ f.empezadas = []

instance (f : FindGame) : Decidable (SinPartida f) :=
  inferInstanceAs (Decidable (f.handler = 0 ∧ f.empezadas = []))

/-- A snapshot with a second player reaches a listener only before any start,
and it is of the game that the field names.  A join is confirmed only before any
start, with the field still set.  While a start is due no other callback sets
the field. -/
structure Puntual (i : ι) (s : Estado ι) (a : Paso ι) : Prop where
  onEvent : a = .event i (.busca .onEvent) →
    ∀ g ∈ (s.client i).busca.avisada, SinPartida (s.client i).busca ∧
      g ≠ "" ∧ (s.client i).busca.jugadaId = g
  confirm : a = .confirm i → (s.client i).busca.caida = false →
    ∀ p ∈ (s.acks i).head?,
      (p.1.une ≠ none → p.2 = true →
        SinPartida (s.client i).busca ∧ (s.client i).busca.jugadaId ≠ "") ∧
      (p.1.crea ≠ none → p.2 = true → (s.client i).busca.handler = 0) ∧
      (p.1.borrada ≠ none → (s.client i).busca.handler = 0)

instance (i : ι) (s : Estado ι) (a : Paso ι) : Decidable (Puntual i s a) :=
  decidable_of_iff (_ ∧ _)
    ⟨fun h => ⟨h.1, h.2⟩, fun h => ⟨h.onEvent, h.confirm⟩⟩

/-! ## The invariant -/

/-- A start that is due goes back to a snapshot of the game in the field. -/
structure Citada (f : FindGame) (h : Historia) : Prop where
  unaPartida : UnaPartida f h
  handler : f.handler = h.citas.length
  cita : f.handler ≠ 0 →
    f.empezadas = [] ∧ f.jugadaId ≠ "" ∧ h.citas = [f.jugadaId]

section Steps

variable {f f' : FindGame} {h : Historia}

theorem Citada.igual (hc : Citada f h) (hempezadas : f'.empezadas = f.empezadas)
    (hhandler : f'.handler = f.handler)
    (hid : f.handler ≠ 0 → f'.jugadaId = f.jugadaId) : Citada f' h := by
  refine ⟨⟨?_, hc.unaPartida.una, hc.unaPartida.suya⟩, ?_, fun hdue => ?_⟩
  · rw [hempezadas]
    exact hc.unaPartida.empezadas
  · rw [hhandler]
    exact hc.handler
  · rw [hhandler] at hdue
    rw [hempezadas, hid hdue]
    exact hc.cita hdue

/-- The delayed start. -/
theorem Citada.run (hc : Citada f h) (hdue : 0 < f.handler) :
    Citada f.run (h.alEvento f .run) := by
  obtain ⟨hempezadas, hid, hcitas⟩ := hc.cita (Nat.ne_of_gt hdue)
  have hlanzadas : h.lanzadas = [] := by
    have hmap := hc.unaPartida.empezadas
    rw [hempezadas] at hmap
    exact List.map_eq_nil_iff.mp hmap.symm
  have hhandler : f.run.handler = 0 := by
    rw [f.run_handler, hc.handler, hcitas]
    rfl
  simp only [Historia.alEvento, hcitas, hlanzadas]
  refine ⟨⟨?_, ?_, ?_⟩, hhandler, fun hno => absurd hhandler hno⟩
  · rw [f.run_empezadas, hempezadas]
    rfl
  · exact Nat.le_refl 1
  · intro p hp
    rw [List.mem_singleton.mp hp]
    refine ⟨hid, fun g hg => ?_⟩
    exact Option.some.inj hg

/-- A snapshot posts a start. -/
theorem Citada.avisa (hc : Citada f h) {g : String} (hfull : f.avisada = some g)
    (hlibre : SinPartida f) (hg : g ≠ "") (hid : f.jugadaId = g)
    (hempezadas : f'.empezadas = f.empezadas)
    (hhandler : f'.handler = f.handler + 1) (hid' : f'.jugadaId = f.jugadaId) :
    Citada f' (h.alEvento f .onEvent) := by
  have hcitas : h.citas = [] := by
    have hlen := hc.handler
    rw [hlibre.1] at hlen
    exact List.length_eq_zero_iff.mp hlen.symm
  simp only [Historia.alEvento, hfull, hcitas, Option.toList_some,
    List.nil_append]
  refine ⟨⟨?_, hc.unaPartida.una, hc.unaPartida.suya⟩, ?_, fun _ => ?_⟩
  · rw [hempezadas]
    exact hc.unaPartida.empezadas
  · rw [hhandler, hlibre.1]
    rfl
  · rw [hempezadas, hid', hid]
    exact ⟨hlibre.2, hg, rfl⟩

/-- An event on the search screen. -/
theorem Citada.atiende {db : BaseDatos} {e : FindGame.Suceso}
    {t : FindGame.Turno} {pend : List Escritura} (hc : Citada f h)
    (hintacta : Intacta f pend) (ht : FindGame.atiende db f e = some t)
    (hok : e = .onEvent → ∀ g ∈ f.avisada,
      SinPartida f ∧ g ≠ "" ∧ f.jugadaId = g) :
    Citada t.state (h.alEvento f e) := by
  have hcambio := FindGame.atiende_cambio ht
  obtain ⟨f', ws, failed⟩ := t
  dsimp only at hcambio ⊢
  -- while the screen waits for its first reply no start is due
  have hpronto : f.espera ≠ .nada → f.handler ≠ 0 → False :=
    fun hespera hdue => hdue (hintacta hespera).2.1
  cases hcambio with
  | avisa n j g eventos heventos hdos hreg hfull =>
      obtain ⟨hlibre, hg, hid⟩ := hok rfl g hfull
      exact hc.avisa hfull hlibre hg hid rfl rfl rfl
  | calla n snap eventos heventos hcalla =>
      simp only [Historia.alEvento, hcalla, Option.toList_none, List.append_nil]
      exact hc.igual rfl rfl fun _ => rfl
  | run hdue => exact hc.run hdue
  | onStop hiniciada =>
      exact hc.igual f.onStop_empezadas f.onStop_handler
        fun _ => f.onStop_jugadaId
  | pinvDirecta partidaID hespera =>
      exact hc.igual rfl rfl fun hdue =>
        (hpronto (by simp [hespera]) hdue).elim
  | linkReception deepLink g hespera hiniciada hg =>
      exact hc.igual rfl rfl fun hdue =>
        (hpronto (by simp [hespera]) hdue).elim
  | onComplete docs nuevas hespera =>
      exact hc.igual rfl rfl fun hdue =>
        (hpronto (by simp [hespera]) hdue).elim
  | _ => exact hc.igual rfl rfl fun _ => rfl

/-- A join is confirmed. -/
theorem Citada.entra (hc : Citada f h) (hlibre : SinPartida f)
    (hid : f.jugadaId ≠ "") :
    Citada f.starGame
      { h with lanzadas := h.lanzadas ++ [(none, f.jugadaId)] } := by
  have hlanzadas : h.lanzadas = [] := by
    have hmap := hc.unaPartida.empezadas
    rw [hlibre.2] at hmap
    exact List.map_eq_nil_iff.mp hmap.symm
  have hhandler : f.starGame.handler = f.handler := f.quitaListener_handler
  rw [hlanzadas]
  refine ⟨⟨?_, Nat.le_refl 1, ?_⟩, ?_, ?_⟩
  · simp only [FindGame.starGame, hlibre.2]
    rfl
  · intro p hp
    rw [List.mem_singleton.mp hp]
    exact ⟨hid, nofun⟩
  · rw [hhandler]
    exact hc.handler
  · intro hdue
    rw [hhandler] at hdue
    exact absurd hlibre.1 hdue

/-- The outcome of a write is told. -/
theorem Citada.confirma {w : Escritura} {ok : Bool} (hc : Citada f h)
    (hune : f.caida = false → w.une ≠ none → ok = true →
      SinPartida f ∧ f.jugadaId ≠ "")
    (hcrea : f.caida = false → w.crea ≠ none → ok = true → f.handler = 0)
    (hborra : f.caida = false → w.borrada ≠ none → f.handler = 0) :
    Citada (f.ack w ok) (h.alConfirmar f w ok) := by
  by_cases hcaida : f.caida = true
  · have hnada : h.alConfirmar f w ok = h :=
      if_neg fun hno => by simp [hcaida] at hno
    rw [hnada, FindGame.ack, if_pos hcaida]
    exact hc
  · have hviva : f.caida = false := by simpa using hcaida
    have hack := FindGame.ack_confirma f w ok
    generalize f.ack w ok = f' at hack ⊢
    cases hack with
    | crea id j =>
        have hnada : h.alConfirmar f (.addJugada id j) true = h :=
          if_neg fun hno => hno.2.2 rfl
        rw [hnada]
        exact hc.igual rfl rfl fun hdue =>
          absurd (hcrea hviva nofun rfl) hdue
    | entra _ g hg =>
        have hno : w.une ≠ none := by simp [hg]
        have hsuma : h.alConfirmar f w true =
            { h with lanzadas := h.lanzadas ++ [(none, f.jugadaId)] } :=
          if_pos ⟨hviva, rfl, hno⟩
        obtain ⟨hlibre, hid⟩ := hune hviva hno rfl
        rw [hsuma]
        exact hc.entra hlibre hid
    | rechazada g u =>
        have hnada : h.alConfirmar f (.unirse g u) false = h :=
          if_neg fun hno => absurd hno.2.1 nofun
        rw [hnada]
        exact hc.igual rfl rfl fun _ => rfl
    | borra g =>
        have hnada : h.alConfirmar f (.deleteJugada g) ok = h :=
          if_neg fun hno => hno.2.2 rfl
        rw [hnada]
        exact hc.igual rfl rfl fun hdue => absurd (hborra hviva nofun) hdue
    | nada _ _ hno hno' =>
        have hnada : h.alConfirmar f w ok = h :=
          if_neg fun hsi => hsi.2.2 (hno hsi.2.1).1
        rw [hnada]
        exact hc
    | caida _ _ hcaida' => exact absurd hcaida' hcaida

end Steps

/-! ## Runs -/

section Run

variable {s s' : Estado ι} {a : Paso ι} {i : ι} {h : Historia}

theorem Citada.step (hc : Citada (s.client i).busca h)
    (hintacta : Intacta (s.client i).busca (pendientes s i))
    (hok : Puntual i s a) (hstep : programa.step s a = some s') :
    Citada (s'.client i).busca (recuerda i s a h) := by
  rcases step_busca hstep i with ⟨e, t, rfl, hat⟩ | ⟨w, ok, rfl, hsabe⟩ |
    ⟨hevento, hconfirma, hajeno⟩
  · have hghost : recuerda i s (.event i (.busca e)) h =
        h.alEvento (s.client i).busca e := if_pos rfl
    have hnext := hc.atiende hintacta hat.atiende (by
      rintro rfl
      exact hok.onEvent rfl)
    rw [hghost, hat.busca]
    exact hnext.igual rfl rfl fun _ => rfl
  · have hghost : recuerda i s (.confirm i) h =
        h.alConfirmar (s.client i).busca w ok := by
      simp only [recuerda, if_true, hsabe.acks]
    have hhead : (w, ok) ∈ (s.acks i).head? := by
      rw [hsabe.acks]
      rfl
    rw [hghost, hsabe.busca]
    refine hc.confirma (fun hviva => ?_) (fun hviva => ?_) fun hviva => ?_
    · exact (hok.confirm rfl hviva _ hhead).1
    · exact (hok.confirm rfl hviva _ hhead).2.1
    · exact (hok.confirm rfl hviva _ hhead).2.2
  · have hghost : recuerda i s a h = h := by
      cases a with
      | event k e =>
          cases e with
          | busca e =>
              refine if_neg fun hk => ?_
              subst hk
              exact hevento e rfl
          | juega e => rfl
          | cancelarJugada g => rfl
      | confirm k =>
          refine if_neg fun hk => ?_
          subst hk
          exact hconfirma rfl
      | arrive k => rfl
      | deliver k => rfl
      | skip k => rfl
    rw [hghost, hajeno.busca]
    exact hc

/-- In every run of the devices in which device `i` is on time, its search
starts at most one match, and the right one. -/
theorem una_partida {uid juego : ι → String} {users : String → Option User}
    {acts : List (Paso ι)} {s : Estado ι} {h : Historia} (i : ι)
    (hrun : Runs.run (Runs.ghost programa.step (recuerda i))
      (inicial uid juego users, {}) acts = some (s, h))
    (hok : Runs.Along programa.step (Puntual i) (inicial uid juego users) acts) :
    UnaPartida (s.client i).busca h := by
  have hinit : Intacta ((inicial uid juego users).client i).busca
      (pendientes (inicial uid juego users) i) ∧
      Citada ((inicial uid juego users).client i).busca {} :=
    ⟨fun _ => ⟨rfl, rfl, rfl, rfl, List.forall_mem_nil _⟩,
      ⟨rfl, Nat.zero_le 1, List.forall_mem_nil _⟩, rfl,
      fun hno => absurd rfl hno⟩
  have hfinal := Runs.invariant
    (I := fun p : Estado ι × Historia =>
      Intacta (p.1.client i).busca (pendientes p.1 i) ∧
        Citada (p.1.client i).busca p.2) ?_ hinit hok.ghost hrun
  · exact hfinal.2.unaPartida
  · rintro p a q ⟨hintacta, hc⟩ hpuntual hstep
    obtain ⟨hstep', hghost⟩ := Runs.ghost_eq_some hstep
    rw [hghost]
    exact ⟨hintacta.step hstep', hc.step hintacta hpuntual hstep'⟩

end Run

/-- The game of `a` is joined by `b`, and `a` starts it. -/
theorem una_partida_juegan :
    ∃ s h, Runs.run (Runs.ghost programa.step (recuerda .ana))
        (inicial deTres (fun _ => "g") fun _ => none, {}) juegan =
          some (s, h) ∧
      h.lanzadas = [(some "g", "g")] ∧ UnaPartida (s.client .ana).busca h := by
  have hvalor : (Runs.run (Runs.ghost programa.step (recuerda .ana))
      (inicial deTres (fun _ => "g") fun _ => none, {}) juegan).map
        (fun p => p.2.lanzadas) = some [(some "g", "g")] := by
    decide
  obtain ⟨⟨s, h⟩, hrun, hlanzadas⟩ := Option.map_eq_some_iff.mp hvalor
  exact ⟨s, h, hrun, hlanzadas, una_partida Trio.ana hrun (by decide)⟩

/-- `b` joins the game of `a`, opens the match and taps at once: `a` is given two
snapshots with a second player within the second. -/
def dosInstantaneas : List (Paso (Trio)) :=
  creaAna ++ encuentra .blas ++ reclamaG .blas ++ [.event .ana (.busca (.emite 0)),
    .confirm .blas, .event .blas (.juega .onStart), .deliver .blas,
    .event .blas (.juega (.clic .IvjDos (sale 0))), .arrive .blas,
    .event .ana (.busca (.emite 0)), .event .ana (.busca .onEvent),
    .event .ana (.busca .onEvent), .event .ana (.busca .run), .event .ana (.busca .run)]

/-- The match is started twice, the second time without an id. -/
theorem dos_partidas :
    ∃ s h, Runs.run (Runs.ghost programa.step (recuerda .ana))
        (inicial deTres (fun _ => "g") fun _ => none, {}) dosInstantaneas =
          some (s, h) ∧
      (s.client .ana).busca.empezadas = ["g", ""] ∧
      ¬UnaPartida (s.client .ana).busca h := by
  have hvalor : (Runs.run (Runs.ghost programa.step (recuerda .ana))
      (inicial deTres (fun _ => "g") fun _ => none, {}) dosInstantaneas).map
        (fun p => ((p.1.client .ana).busca.empezadas, p.2.lanzadas)) =
      some (["g", ""], [(some "g", "g"), (some "g", "")]) := by
    decide
  obtain ⟨⟨s, h⟩, hrun, hvalor⟩ := Option.map_eq_some_iff.mp hvalor
  obtain ⟨hempezadas, hlanzadas⟩ := Prod.mk.inj hvalor
  refine ⟨s, h, hrun, hempezadas, fun huna => ?_⟩
  have hlen := huna.una
  rw [hlanzadas] at hlen
  exact absurd hlen (by decide)

end Tocate.Sala
