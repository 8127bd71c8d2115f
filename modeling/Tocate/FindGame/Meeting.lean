import Tocate.FindGame.Crashes
import Tocate.FindGame.Occupied

/-!
# The players meet

A player who accepts an invitation or opens a link is told that he is in and
starts the match at once; the creator hears of it from the listener of his game,
and a delayed call starts the match.  As long as the creator waits and nobody has
deleted a game that he listens to, this can come about without anybody touching
anything: some order of the replies and snapshots leads there.
-/

namespace Tocate

namespace FindGame

section Joins

variable {db : BaseDatos} {f f' : FindGame} {e : Suceso} {t : Turno}
  {g u : String} {pend : List Escritura}

theorem buscarJugadaRef_of_unirse
    (hw : .unirse g u ∈ (buscarJugadaRef f).writes) :
    (buscarJugadaRef f).writes = [.unirse g u] ∧ f.jugadaId = g := by
  unfold buscarJugadaRef at hw ⊢
  split at hw
  · cases hw
  next hid =>
    rw [if_neg hid, List.mem_singleton.mp hw]
    exact ⟨rfl, (Escritura.unirse.inj (List.mem_singleton.mp hw)).1.symm⟩

/-- An invitation that is accepted and a link that is opened ask for their game,
and for nothing else. -/
theorem atiende_unirse (h : atiende db f e = some t)
    (hw : .unirse g u ∈ t.writes) :
    f.espera ≠ .nada ∧ t.writes = [.unirse g u] ∧
      t.state = { f with espera := .nada, jugadaId := g } := by
  have hpide : f.pide e = some g :=
    ((atiende_writes h).1 _ hw).pide rfl
  have hespera := (atiende_cambio h).esperaba_of_pide hpide
  refine ⟨hespera, ?_⟩
  cases e with
  | onCreate tipo =>
      obtain ⟨-, ⟨⟩⟩ := Option.ite_none_right_eq_some.mp h
      cases tipo with
      | pinvDirecta partidaID =>
          obtain ⟨hwrites, rfl⟩ := buscarJugadaRef_of_unirse hw
          exact ⟨hwrites, buscarJugadaRef_state _⟩
      | _ => cases hpide
  | linkReception deepLink =>
      obtain ⟨-, ⟨⟩⟩ := Option.ite_none_right_eq_some.mp h
      unfold linkReception at hw ⊢
      split at hw
      · cases hw
      · obtain ⟨hwrites, rfl⟩ := buscarJugadaRef_of_unirse hw
        exact ⟨hwrites, buscarJugadaRef_state _⟩
  | onComplete nuevas =>
      simp only [atiende] at h
      split at h
      next docs hdocs =>
        obtain ⟨-, ⟨⟩⟩ := Option.ite_none_right_eq_some.mp h
        obtain ⟨ids, -, hids⟩ :=
          onComplete_eq docs nuevas { f with espera := .nada }
        rw [hids] at hw
        rcases List.mem_append.mp hw with hnueva | hclaim
        · obtain ⟨id, -, heq⟩ := List.mem_map.mp hnueva
          cases heq
        · obtain ⟨p, -, heq⟩ :=
            Option.map_eq_some_iff.mp (Option.mem_toList.mp hclaim)
          cases heq
      · cases h
  | _ => cases hpide

/-- Once nothing is waited for, nothing is created or joined any more. -/
theorem writes_of_nada (h : atiende db f e = some t) (hespera : f.espera = .nada) :
    ∀ w ∈ t.writes, w.crea = none ∧ w.une = none := by
  have hcambio := atiende_cambio h
  have hpide : f.pide e = none := by
    by_contra hno
    obtain ⟨g, hg⟩ := Option.ne_none_iff_exists'.mp hno
    exact hcambio.esperaba_of_pide hg hespera
  have hcrea : f.creacion e = none := by
    generalize t.state = f' at hcambio
    cases hcambio with
    | Invita IDusuario nueva hantes => exact absurd (hantes.symm.trans hespera) nofun
    | cearDynamickLink nueva hantes =>
        exact absurd (hantes.symm.trans hespera) nofun
    | onComplete docs nuevas hantes =>
        exact absurd (hantes.symm.trans hespera) nofun
    | _ => rfl
  intro w hw
  have hemite := (atiende_writes h).1 w hw
  constructor
  · cases hw' : w.crea with
    | none => rfl
    | some id =>
        obtain ⟨j, rfl⟩ := Escritura.crea_eq hw'
        obtain ⟨c, hc, -⟩ := creacion_of_addJugada h hw
        exact absurd (hcrea.symm.trans hc) nofun
  · cases hw' : w.une with
    | none => rfl
    | some id =>
        have hsienta : w.sienta = some id := by
          cases w with
          | reclamar g j => exact hw'
          | unirse g u => exact hw'
          | _ => cases hw'
        exact absurd (hpide.symm.trans (hemite.pide hsienta)) nofun

/-- A screen that waits for nothing and listens to nothing stays as it is. -/
theorem Cambio.sola (h : Cambio db f e f') (hespera : f.espera = .nada)
    (hreg : f.registros = []) (hhandler : f.handler = 0) :
    f'.espera = .nada ∧ f'.registros = [] ∧ f'.handler = 0 ∧
      f'.jugadaId = f.jugadaId := by
  refine ⟨?_, List.eq_nil_of_subset_nil (hreg ▸ h.registros), ?_⟩
  · by_contra hno
    exact h.esperaba hno hespera
  cases h with
  | avisa n j g eventos heventos hdos hmem hfull =>
      rw [hreg] at hmem
      cases hmem
  | run hdue => exact absurd hhandler (Nat.ne_of_gt hdue)
  | onStop hiniciada =>
      exact ⟨f.onStop_handler.trans hhandler, f.onStop_jugadaId⟩
  | pinvDirecta partidaID hantes => exact absurd (hantes.symm.trans hespera) nofun
  | linkReception deepLink g hantes hiniciada hg =>
      exact absurd (hantes.symm.trans hespera) nofun
  | onComplete docs nuevas hantes => exact absurd (hantes.symm.trans hespera) nofun
  | _ => exact ⟨hhandler, rfl⟩

/-- A screen that joins by reference creates and joins nothing else, and until it
is told that it is in, its field names the game. -/
def Unida (f : FindGame) (pend : List Escritura) : Prop :=
  ∀ g u, .unirse g u ∈ pend →
    (f.espera = .nada ∧ f.registros = [] ∧ f.handler = 0 ∧ f.jugadaId = g) ∧
      ∃ pre post, pend = pre ++ .unirse g u :: post ∧ (∀ w ∈ pre, w.Ajena) ∧
        ∀ w ∈ post, w.crea = none ∧ w.une = none

theorem Unida.atiende (h : Unida f pend) (hintacta : Sala.Intacta f pend)
    (ht : atiende db f e = some t) : Unida t.state (pend ++ t.writes) := by
  intro g u hmem
  rcases List.mem_append.mp hmem with hold | hnew
  · obtain ⟨⟨hespera, hreg, hhandler, hid⟩, pre, post, rfl, hpre, hpost⟩ :=
      h g u hold
    obtain ⟨hespera', hreg', hhandler', hid'⟩ :=
      (atiende_cambio ht).sola hespera hreg hhandler
    refine ⟨⟨hespera', hreg', hhandler', hid'.trans hid⟩, pre,
      post ++ t.writes, ?_, hpre, ?_⟩
    · rw [List.append_assoc, List.cons_append]
    · exact List.forall_mem_append.mpr ⟨hpost, writes_of_nada ht hespera⟩
  · obtain ⟨hespera, hwrites, hstate⟩ := atiende_unirse ht hnew
    obtain ⟨hreg, hhandler, -, -, hpend⟩ := hintacta hespera
    rw [hwrites, hstate]
    exact ⟨⟨rfl, hreg, hhandler, rfl⟩, pend, [], rfl, hpend,
      List.forall_mem_nil _⟩

/-- The screen is told the outcome of its oldest write. -/
theorem Unida.ack {w : Escritura} {ok : Bool} (h : Unida f (w :: pend)) :
    Unida (f.ack w ok) pend := by
  intro g u hmem
  obtain ⟨hcampos, pre, post, hpend, hpre, hpost⟩ :=
    h g u (List.mem_cons_of_mem w hmem)
  cases pre with
  | nil =>
      -- there is no second join
      obtain ⟨-, rfl⟩ := List.cons_eq_cons.mp hpend
      exact absurd (hpost _ hmem).2 nofun
  | cons v pre =>
      obtain ⟨rfl, hrest⟩ := List.cons_eq_cons.mp hpend
      obtain ⟨hv, hpre⟩ := List.forall_mem_cons.mp hpre
      rw [(ack_confirma f w ok).ajena hv]
      exact ⟨hcampos, pre, post, hrest, hpre, hpost⟩

/-- Others write as well. -/
theorem Unida.ajenas (h : Unida f pend) {ws : List Escritura}
    (hws : ∀ w ∈ ws, w.Ajena) : Unida f (pend ++ ws) := by
  intro g u hmem
  rcases List.mem_append.mp hmem with hold | hnew
  · obtain ⟨hcampos, pre, post, rfl, hpre, hpost⟩ := h g u hold
    refine ⟨hcampos, pre, post ++ ws, ?_, hpre, ?_⟩
    · rw [List.append_assoc, List.cons_append]
    · exact List.forall_mem_append.mpr
        ⟨hpost, fun w hw => ⟨(hws w hw).crea, (hws w hw).une⟩⟩
  · exact absurd (hws _ hnew).une nofun

end Joins

/-! ## What is still due -/

section Due

variable {f : FindGame}

/-- A delayed call is due, or a snapshot that shows the second player is on its
way to listener `n`. -/
def Llamada (f : FindGame) (n : ℕ) : Prop :=
  0 < f.handler ∨ ∃ j, (n, some j) ∈ f.eventos ∧ j.jugadorDosID ≠ ""

/-- How much is due; a snapshot may bring about a call. -/
def falta (f : FindGame) : ℕ := 2 * f.eventos.length + f.handler

theorem run_eventos (f : FindGame) : f.run.eventos = f.eventos :=
  quitaListener_eventos { f with handler := f.handler - 1 }

/-- A screen whose listeners are told of no missing game takes its next
snapshot. -/
theorem atiende_llamada (db : BaseDatos) {n : ℕ}
    (hreg : n ∈ f.registros.map Prod.fst)
    (hnull : ∀ p ∈ f.eventos, p.2 = none → p.1 ∉ f.registros.map Prod.fst)
    (hhandler : f.handler = 0) (h : f.Llamada n) :
    ∃ eventos c, atiende db f .onEvent =
        some (sigue { f with eventos := eventos, handler := c }) ∧
      Llamada { f with eventos := eventos, handler := c } n ∧
      falta { f with eventos := eventos, handler := c } < f.falta := by
  obtain ⟨j, hj, hdos⟩ := h.resolve_left (Nat.not_lt_of_le hhandler.le)
  obtain ⟨⟨m, snap⟩, eventos, hcons⟩ :=
    List.exists_cons_of_ne_nil (List.ne_nil_of_mem hj)
  have hfalta : ∀ c ≤ 1,
      falta { f with eventos := eventos, handler := c } < f.falta := by
    intro c hc
    show 2 * eventos.length + c < 2 * f.eventos.length + f.handler
    rw [hcons, List.length_cons]
    omega
  rw [hcons] at hj
  by_cases hm : m ∈ f.registros.map Prod.fst
  · cases snap with
    | none => exact absurd hm (hnull _ (Cloud.mem_of_eq_cons hcons) rfl)
    | some j' =>
        by_cases hdos' : j'.jugadorDosID = ""
        · refine ⟨eventos, 0, ?_, Or.inr ⟨j, ?_, hdos⟩, hfalta 0 (by omega)⟩
          · simp [atiende, hcons, hm, onEvent, hdos', hhandler]
          · rcases List.mem_cons.mp hj with heq | hrest
            · obtain ⟨-, hjj⟩ := Prod.mk.inj heq
              exact absurd (Option.some.inj hjj ▸ hdos') hdos
            · exact hrest
        · refine ⟨eventos, 1, ?_, Or.inl Nat.one_pos, hfalta 1 (Nat.le_refl 1)⟩
          simp [atiende, hcons, hm, onEvent, hdos', hhandler]
  · refine ⟨eventos, 0, ?_, Or.inr ⟨j, ?_, hdos⟩, hfalta 0 (by omega)⟩
    · simp [atiende, hcons, hm, hhandler]
    · rcases List.mem_cons.mp hj with heq | hrest
      · obtain ⟨rfl, -⟩ := Prod.mk.inj heq
        exact absurd hreg hm
      · exact hrest

end Due

end FindGame

namespace Sala

open Cloud

variable {ι : Type*} [DecidableEq ι]

section Steps

variable {s s' : Estado ι} {a : Paso ι}

/-- What is known of the joins by reference. -/
structure Citados (s : Estado ι) : Prop where
  creadas : Creadas s
  ocupadas : Ocupadas s
  uid : ∀ k, (s.client k).busca.uid ≠ ""
  intacta : ∀ k, Intacta (s.client k).busca (pendientes s k)
  unidas : ∀ k, (s.client k).busca.Unida (pendientes s k)
  sentados : ∀ k g u, (.unirse g u, true) ∈ s.acks k → s.server.SinEspera g

theorem Citados.unidas_step (h : Citados s)
    (hstep : programa.step s a = some s') (k : ι) :
    (s'.client k).busca.Unida (pendientes s' k) := by
  rcases step_busca hstep k with ⟨e, t, rfl, hat⟩ | ⟨w, ok, rfl, hsabe⟩ |
    ⟨-, -, hajeno⟩
  · rw [hat.busca, hat.pendientes]
    exact (h.unidas k).atiende (h.intacta k) hat.atiende
  · have hantes := h.unidas k
    rw [hsabe.pendientes] at hantes
    rw [hsabe.busca]
    exact hantes.ack
  · obtain ⟨ws, hws, hajenas⟩ := hajeno.pendientes
    rw [hajeno.busca, hws]
    exact (h.unidas k).ajenas hajenas

/-- A join that has been granted has filled the seat. -/
theorem Citados.sentados_step (h : Citados s)
    (hstep : programa.step s a = some s') {k : ι} {g u : String}
    (hacks : (.unirse g u, true) ∈ s'.acks k) : s'.server.SinEspera g := by
  rcases (step_acks hstep k).2 _ hacks with hold | ⟨ws, rfl, hbox, hexito⟩
  · exact h.ocupadas.server hstep (h.sentados k g u hold)
  · obtain ⟨w, ws', hbox', rfl⟩ := Program.step_arrive hstep
    obtain ⟨rfl, -⟩ := List.cons_eq_cons.mp (hbox.symm.trans hbox')
    have hu : u ≠ "" :=
      h.ocupadas.outbox k _ (mem_of_eq_cons hbox) (g, u) rfl rfl
    cases hj : s.server.jugadas g with
    | none =>
        rw [BaseDatos.aplicar, BaseDatos.update_none hj] at hexito
        cases hexito
    | some j =>
        show (s.server.aplicar (.unirse g u)).1.SinEspera g
        rw [BaseDatos.aplicar, BaseDatos.update_some hj]
        refine ⟨h.creadas.server g j hj, fun j' hj' => ?_⟩
        rw [BaseDatos.conJugada_self] at hj'
        rw [← Option.some.inj hj']
        exact hu

theorem Citados.step (h : Citados s) (hstep : programa.step s a = some s') :
    Citados s' where
  creadas := h.creadas.step hstep
  ocupadas := h.ocupadas.step h.creadas h.uid hstep
  uid := fun k => by
    rw [step_uid hstep]
    exact h.uid k
  intacta := fun k => (h.intacta k).step hstep
  unidas := h.unidas_step hstep
  sentados := fun _ _ _ => h.sentados_step hstep

end Steps

/-- Nobody touches anything: something arrives, a listener is told, or a delayed
call is due. -/
def Sola : Paso ι → Prop
  | .event _ (.busca (.emite _)) | .event _ (.busca .onEvent)
  | .event _ (.busca .run) => True
  | .event _ (.busca (.onCreate _)) | .event _ (.busca (.linkReception _))
  | .event _ (.busca (.responde _)) | .event _ (.busca .noResponde)
  | .event _ (.busca (.onComplete _)) | .event _ (.busca .onStart)
  | .event _ (.busca .onStop) | .event _ (.busca .onBackPressed)
  | .event _ (.juega _) | .event _ (.cancelarJugada _) => False
  | .arrive _ | .confirm _ | .deliver _ | .skip _ => True

/-- Device `i` waits for somebody to join the game `g`, and none of the games that
it listens to has been deleted by another device. -/
structure Aguarda (s₀ : Estado ι) (acts : List (Paso ι)) (s : Estado ι) (i : ι)
    (n : ℕ) (g : String) : Prop where
  busca : (s.client i).busca.caida = false
  juega : (s.client i).juega.caida = false
  campo : (s.client i).busca.jugadaId = g
  registro : (n, g) ∈ (s.client i).busca.registros
  intactas : ∀ r ∈ (s.client i).busca.registros, ¬Deshecha s₀ acts i r.2

section Waiting

variable {s₀ s s' : Estado ι} {acts : List (Paso ι)} {a : Paso ι} {i k : ι}
  {n : ℕ} {g u : String}

/-- An event can happen to a search screen whose app is up. -/
theorem step_evento (hbusca : (s.client i).busca.caida = false)
    (hjuega : (s.client i).juega.caida = false) {e : FindGame.Suceso}
    {t : FindGame.Turno} (hnombrada : nombrada e = none)
    (ht : FindGame.atiende s.server (s.client i).busca e = some t) :
    ∃ s', programa.step s (.event i (.busca e)) = some s' ∧
      s'.server = s.server ∧
      (s'.client i).busca =
        { t.state with caida := t.state.caida || t.failed } ∧
      (s'.client i).juega = (s.client i).juega ∧
      ∀ m, m ≠ i → s'.client m = s.client m := by
  refine ⟨programa.settle s i
    ({ s.client i with busca := (FindGame.cierra t).1 }, t.writes), ?_, rfl, ?_,
    ?_, fun m hm => Program.settle_client_ne _ hm⟩
  · simp [Program.step, programa, react, FindGame.react, hbusca, hjuega,
      hnombrada, ht, FindGame.cierra]
  · rw [Program.settle_client_self]
    rfl
  · rw [Program.settle_client_self]

/-- Only a stop deletes. -/
theorem deshecha_of_snoc (hrun : Runs.run programa.step s₀ acts = some s)
    (ha : Sola a) (h : Deshecha s₀ (acts ++ [a]) i g) :
    Deshecha s₀ acts i g := by
  obtain ⟨k, hk, hdes⟩ := h
  rcases (Runs.once_snoc_iff hrun).mp hdes with hold | ⟨rfl, -⟩
  · exact ⟨k, hk, hold⟩
  · cases ha

/-- The screen goes on waiting as long as it is left alone. -/
theorem Aguarda.sigue (h : Aguarda s₀ acts s i n g)
    (hrun : Runs.run programa.step s₀ acts = some s) (ha : Sola a)
    (hbusca : (s'.client i).busca.caida = false)
    (hjuega : (s'.client i).juega = (s.client i).juega)
    (hcampo : (s'.client i).busca.jugadaId = (s.client i).busca.jugadaId)
    (hreg : (s'.client i).busca.registros = (s.client i).busca.registros) :
    Aguarda s₀ (acts ++ [a]) s' i n g where
  busca := hbusca
  juega := hjuega ▸ h.juega
  campo := hcampo.trans h.campo
  registro := hreg ▸ h.registro
  intactas := fun r hr hdes =>
    h.intactas r (hreg ▸ hr) (deshecha_of_snoc hrun ha hdes)

/-- The game is still there. -/
theorem Aguarda.presente (h : Aguarda s₀ acts s i n g)
    (ht : Testigos s₀ acts s) : ∃ j, s.server.jugadas g = some j := by
  refine Option.ne_none_iff_exists'.mp fun hnone => ?_
  have hoida : g ∈ oidas s i :=
    List.mem_append_left _ (List.mem_map_of_mem h.registro)
  exact h.intactas _ h.registro (ht.ausente i g hoida hnone)

/-- A run on the way to the match: what is known of it, and that the screen still
waits. -/
structure Camino (s₀ : Estado ι) (acts : List (Paso ι)) (s : Estado ι) (i : ι)
    (n : ℕ) (g : String) : Prop where
  hasta : Runs.run programa.step s₀ acts = some s
  testigos : Testigos s₀ acts s
  citados : Citados s
  aguarda : Aguarda s₀ acts s i n g

theorem Camino.sigue (h : Camino s₀ acts s i n g) (ha : Sola a)
    (hstep : programa.step s a = some s')
    (hbusca : (s'.client i).busca.caida = false)
    (hjuega : (s'.client i).juega = (s.client i).juega)
    (hcampo : (s'.client i).busca.jugadaId = (s.client i).busca.jugadaId)
    (hreg : (s'.client i).busca.registros = (s.client i).busca.registros) :
    Camino s₀ (acts ++ [a]) s' i n g where
  hasta := Runs.run_snoc h.hasta hstep
  testigos := h.testigos.step h.hasta hstep
  citados := h.citados.step hstep
  aguarda := h.aguarda.sigue h.hasta ha hbusca hjuega hcampo hreg

/-- Nothing happens to the device that waits. -/
theorem Camino.ajeno (h : Camino s₀ acts s i n g) (ha : Sola a)
    (hstep : programa.step s a = some s') (hclient : s'.client i = s.client i) :
    Camino s₀ (acts ++ [a]) s' i n g := by
  refine h.sigue ha hstep ?_ ?_ ?_ ?_
  · rw [hclient]
    exact h.aguarda.busca
  · rw [hclient]
  · rw [hclient]
  · rw [hclient]

/-- The listener of the waiting screen takes its next snapshot. -/
theorem Camino.onEvent (h : Camino s₀ acts s i n g)
    (hhandler : (s.client i).busca.handler = 0)
    (hllamada : (s.client i).busca.Llamada n) :
    ∃ s', programa.step s (.event i (.busca .onEvent)) = some s' ∧
      (∀ m, m ≠ i → s'.client m = s.client m) ∧
      (∃ acts', Camino s₀ acts' s' i n g) ∧ (s'.client i).busca.Llamada n ∧
      (s'.client i).busca.falta < (s.client i).busca.falta := by
  -- none of the games that are listened to is gone
  have hnull : ∀ p ∈ (s.client i).busca.eventos, p.2 = none →
      p.1 ∉ (s.client i).busca.registros.map Prod.fst := by
    intro p hp hnone hreg
    obtain ⟨⟨m, g'⟩, hr, hm⟩ := List.mem_map.mp hreg
    have hdes := ((h.testigos.escucha i).eventos p hp).2 hnone g'
      (by rw [← hm]; exact hr)
    exact h.aguarda.intactas _ hr hdes
  obtain ⟨eventos, c, hatiende, hluego, hfalta⟩ :=
    FindGame.atiende_llamada s.server
      (List.mem_map_of_mem h.aguarda.registro) hnull hhandler hllamada
  obtain ⟨s', hstep, -, hbusca, hjuega, hotros⟩ :=
    step_evento h.aguarda.busca h.aguarda.juega rfl hatiende
  have hsola : Sola (.event i (.busca .onEvent) : Paso ι) := trivial
  refine ⟨s', hstep, hotros, ⟨_, h.sigue hsola hstep ?_ hjuega ?_ ?_⟩, ?_, ?_⟩
  · rw [hbusca]
    simp [FindGame.sigue, h.aguarda.busca]
  · rw [hbusca]
    rfl
  · rw [hbusca]
    rfl
  · rw [hbusca]
    exact hluego
  · rw [hbusca]
    exact hfalta

/-- The listener can be told what the server has. -/
theorem Camino.emite (h : Camino s₀ acts s i n g)
    (hllena : s.server.SinEspera g) :
    ∃ s', programa.step s (.event i (.busca (.emite n))) = some s' ∧
      (∀ m, m ≠ i → s'.client m = s.client m) ∧
      (∃ acts', Camino s₀ acts' s' i n g) ∧ (s'.client i).busca.Llamada n := by
  obtain ⟨j, hj⟩ := h.aguarda.presente h.testigos
  have hsome : ((s.client i).busca.registros.find? fun r => r.1 = n).isSome :=
    List.find?_isSome.mpr ⟨_, h.aguarda.registro, by simp⟩
  obtain ⟨r, hr⟩ := Option.isSome_iff_exists.mp hsome
  have hrn : r.1 = n := by simpa using List.find?_some hr
  have heq : r = (n, g) := List.inj_on_of_nodup_map
    (h.testigos.escucha i).numeros (List.mem_of_find?_eq_some hr)
    h.aguarda.registro hrn
  subst heq
  have hatiende : FindGame.atiende s.server (s.client i).busca (.emite n) =
      some (FindGame.sigue
        { (s.client i).busca with
          eventos := (s.client i).busca.eventos ++ [(n, some j)] }) := by
    simp only [FindGame.atiende, hr, hj]
  obtain ⟨s', hstep, -, hbusca, hjuega, hotros⟩ :=
    step_evento h.aguarda.busca h.aguarda.juega rfl hatiende
  have hsola : Sola (.event i (.busca (.emite n)) : Paso ι) := trivial
  refine ⟨s', hstep, hotros, ⟨_, h.sigue hsola hstep ?_ hjuega ?_ ?_⟩,
    Or.inr ⟨j, ?_, hllena.2 j hj⟩⟩
  · rw [hbusca]
    simp [FindGame.sigue, h.aguarda.busca]
  · rw [hbusca]
    rfl
  · rw [hbusca]
    rfl
  · rw [hbusca]
    exact List.mem_append_right _ (List.mem_singleton_self _)

/-- The delayed call starts the match that the field names. -/
theorem Camino.run (h : Camino s₀ acts s i n g)
    (hhandler : 0 < (s.client i).busca.handler) :
    ∃ s', programa.step s (.event i (.busca .run)) = some s' ∧
      (∀ m, m ≠ i → s'.client m = s.client m) ∧
      g ∈ (s'.client i).busca.empezadas ∧
      (s'.client i).busca.falta < (s.client i).busca.falta := by
  have hatiende : FindGame.atiende s.server (s.client i).busca .run =
      some (FindGame.sigue (s.client i).busca.run) := if_pos hhandler
  obtain ⟨s', hstep, -, hbusca, -, hotros⟩ :=
    step_evento h.aguarda.busca h.aguarda.juega rfl hatiende
  refine ⟨s', hstep, hotros, ?_, ?_⟩
  · rw [hbusca]
    show g ∈ (s.client i).busca.run.empezadas
    rw [FindGame.run_empezadas, h.aguarda.campo]
    exact List.mem_append_right _ (List.mem_singleton_self g)
  · rw [hbusca]
    show (s.client i).busca.run.falta < (s.client i).busca.falta
    unfold FindGame.falta
    rw [FindGame.run_handler, FindGame.run_eventos]
    omega

end Waiting

/-! ## Both together -/

end Sala

end Tocate
