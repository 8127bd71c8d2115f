import Tocate.Lib.Settling
import Tocate.MultPlayer.Steps

/-!
# What the two screens agree on

During a match the copies of the two screens and the database may differ in many
ways.  They meet again whenever the network comes to rest: a screen that listens
then has the match of the database and shows its scores, or it has told its
player that the match has been abandoned.  The listener is only assumed not to
pass over the last state of the server.
-/

namespace Tocate

open Cloud

namespace MultPlayer

/-- The screen has the match `j`: it shows its scores, or has shown that it has
been abandoned. -/
structure Muestra (j : Jugada) (m : MultPlayer) : Prop where
  jugada : m.jugada = some j
  marcador : j.abandonoID = "" →
    m.tvAciertos = some j.puntosjugadorUnoID ∧
      m.tvAciertos2 = some j.puntosjugadorDosID
  aviso : j.abandonoID ≠ "" →
    ∃ d ∈ m.dialogos, ∃ nombre, d.tvTitulo = .abandonopartida nombre

section Muestra

variable {m m' x : MultPlayer} {j : Jugada}

theorem titulo_false (m : MultPlayer) (j : Jugada) :
    ∃ nombre, m.titulo j false = .abandonopartida nombre := by
  unfold titulo
  rw [if_neg Bool.false_ne_true]
  split
  · exact ⟨_, rfl⟩
  · exact ⟨_, rfl⟩

/-- The dialog of an abandoned match says so. -/
theorem dialogo_Gameover_muestra (hj : x.jugada = some j)
    (habandono : j.abandonoID ≠ "")
    (hsigue : (dialogo_Gameover false x).failed = false) :
    Muestra j (dialogo_Gameover false x).state := by
  rw [dialogo_Gameover_eq false hj] at hsigue ⊢
  split at hsigue
  · cases hsigue
  next hventana =>
    rw [if_neg hventana]
    obtain ⟨nombre, hnombre⟩ := titulo_false x j
    exact ⟨hj, fun hno => absurd hno habandono,
      fun _ => ⟨_, List.mem_append_right _ (List.mem_singleton_self _),
        nombre, hnombre⟩⟩

/-- `recibirDBjugada` shows the match, unless it is cut short. -/
theorem recibirDBjugada_muestra (hj : x.jugada = some j)
    (hsigue : (recibirDBjugada x).failed = false) :
    Muestra j (recibirDBjugada x).state := by
  unfold recibirDBjugada at hsigue ⊢
  rw [hj] at hsigue ⊢
  dsimp only at hsigue ⊢
  by_cases habandono : j.abandonoID = ""
  · rw [if_pos habandono]
    exact ⟨rfl, fun _ => ⟨rfl, rfl⟩, fun hno => absurd habandono hno⟩
  · rw [if_neg habandono] at hsigue ⊢
    cases hreloj : x.countDownTimer with
    | none =>
        rw [cancelaCountDownTimer, hreloj] at hsigue
        cases hsigue
    | some t =>
        rw [cancelaCountDownTimer_eq hreloj, sigue_andThen] at hsigue ⊢
        exact dialogo_Gameover_muestra hj habandono hsigue

/-- A snapshot that is taken is shown, or takes the app down. -/
theorem onEvent_muestra (m : MultPlayer) (j : Jugada)
    (hviva : (cierra (onEvent false (some j) m)).1.caida = false) :
    Muestra j (cierra (onEvent false (some j) m)).1 := by
  have hsigue : (onEvent false (some j) m).failed = false := by
    simp only [cierra, Bool.or_eq_false_iff] at hviva
    exact hviva.2
  rcases onEvent_eq m j with ⟨-, -, hfalla, -⟩ | ⟨-, heq⟩
  · rw [hfalla] at hsigue
    cases hsigue
  · rw [cierra_of_not_failed hsigue]
    rw [heq] at hsigue ⊢
    exact recibirDBjugada_muestra (alRecibir_jugada m j) hsigue

/-- A silent event leaves the scores on the screen alone. -/
theorem react_callado_marcador {vista : BaseDatos} {e : Suceso}
    {ws : List Escritura} (he : e.esCallado = true)
    (h : react vista m e = some (m', ws)) :
    m'.tvAciertos = m.tvAciertos ∧ m'.tvAciertos2 = m.tvAciertos2 := by
  obtain ⟨-, t, ht, hcierra⟩ := react_eq_some h
  obtain ⟨rfl, -⟩ := Prod.mk.inj hcierra
  cases e using Suceso.casos with
  | user p =>
      obtain ⟨id, resto, -, rfl⟩ := atiende_user ht
      obtain ⟨-, nombre, hstate⟩ := recibeUser_eq p id resto (vista.users id) m
      rw [hstate]
      cases p <;> exact ⟨rfl, rfl⟩
  | onStart =>
      obtain ⟨-, ⟨⟩⟩ := Option.ite_none_right_eq_some.mp ht
      exact ⟨rfl, rfl⟩
  | botonDialogo d =>
      obtain ⟨-, ⟨⟩⟩ := Option.ite_none_right_eq_some.mp ht
      obtain ⟨-, _, _, _, hstate⟩ := botonDialogo_eq d m
      rw [hstate]
      exact ⟨rfl, rfl⟩
  | onFinishDial d =>
      obtain ⟨-, ⟨⟩⟩ := Option.ite_none_right_eq_some.mp ht
      exact ⟨rfl, rfl⟩
  | clic _ _ => cases he
  | onFinish _ => cases he
  | onStop => cases he
  | onBackPressed => cases he

theorem Muestra.callado {vista : BaseDatos} {e : Suceso} {ws : List Escritura}
    (hm : Muestra j m) (he : e.esCallado = true)
    (h : react vista m e = some (m', ws)) : Muestra j m' := by
  have hc := react_callado he h
  obtain ⟨huno, hdos⟩ := react_callado_marcador he h
  refine ⟨hc.jugada.trans hm.jugada, ?_, ?_⟩
  · rw [huno, hdos]
    exact hm.marcador
  · rw [hc.dialogos]
    exact hm.aviso

end Muestra

end MultPlayer

namespace Partida

/-- The screen shows the match that the database has. -/
def Actualizada (p : Partida) (db : BaseDatos) (m : MultPlayer) : Prop :=
  ∃ j, db.jugadas p.jugadaId = some j ∧ MultPlayer.Muestra j m

/-- A screen that has the match of the server keeps showing it, unless it writes
the match itself. -/
theorem Actualizada.react {p : Partida} {l : Lado} {s : Estado} {e : Suceso}
    {m' : MultPlayer} {ws : List Escritura} (hs : (asientos p).Holds s)
    (h : Partida.react s.server (programa.view s l) (s.client l) e =
      some (m', ws))
    (hlis : m'.escucha = true)
    (hws : ∀ w ∈ ws, ¬w.toca p.jugadaId = true)
    (hdia : p.Actualizada s.server (s.client l)) : p.Actualizada s.server m' := by
  obtain ⟨j, hj, hm⟩ := hdia
  obtain ⟨hjug, -⟩ := hs.clients l
  have hset : ∀ k, .setJugada (s.client l).jugadaId k ∉ ws := by
    intro k hk
    refine hws _ hk ?_
    rw [hjug.jugadaId]
    exact decide_eq_true rfl
  rcases react_cases h with ⟨e', rfl, hreact, -⟩ | ⟨rfl, -⟩
  · rcases e'.clases with ⟨imagen, aleatorio, rfl⟩ | hgame | hcallado
    · obtain ⟨-, -, ⟨hno, -⟩ | ⟨k, ht⟩⟩ := MultPlayer.react_clic hreact
      · exact absurd (hm.jugada.symm.trans hno) (Option.some_ne_none j)
      · exact absurd ht.guarda.jugada (hset _)
    · rcases MultPlayer.react_gameover hgame hreact with hc | ⟨k, -, ht⟩
      · simp only [MultPlayer.escucha, hc.caida, Bool.not_true,
          Bool.and_false] at hlis
        cases hlis
      · exact absurd ht.guarda.jugada (hset _)
    · exact ⟨j, hj, hm.callado hcallado hreact⟩
  · exact ⟨j, hj, hm⟩

/-- The screens follow the database. -/
theorem pantallas_siguen (p : Partida) :
    Follows programa (asientos p).Holds
      (fun _ w => w.toca p.jugadaId = true) (fun _ => p.Actualizada) where
  react := fun _ _ _ _ hs hreact hlis hws hdia =>
    Actualizada.react hs hreact hlis hws hdia
  confirm := fun _ _ _ _ _ _ _ _ _ hdia => hdia
  deliver := by
    intro s l d rest hs hbox hlis hout _
    obtain ⟨j, hj, -⟩ := hs.inbox l d (mem_of_eq_cons hbox)
    obtain ⟨hjug, -⟩ := hs.clients l
    have hpend : (s.outbox l).any (Escritura.toca (s.client l).jugadaId) =
        false := by
      rw [hjug.jugadaId, List.any_eq_false]
      exact hout
    have hviva : (programa.snapshot (s.outbox l) d (s.client l)).1.caida =
        false := by
      simp only [programa, MultPlayer.escucha, Bool.and_eq_true,
        Bool.not_eq_true'] at hlis
      exact hlis.2
    refine ⟨j, hj, ?_⟩
    simp only [programa, MultPlayer.snapshot] at hviva ⊢
    split at hviva
    next hcaida => exact Bool.noConfusion (hcaida.symm.trans hviva)
    next hno =>
      rw [if_neg hno]
      rw [hpend, hjug.jugadaId, hj] at hviva ⊢
      exact MultPlayer.onEvent_muestra _ _ hviva

/-- The seats are in order, the screens are up to date, and nothing waits for a
screen that does not listen. -/
structure Sincronizada (p : Partida) (s : Estado) : Prop where
  asientos : (asientos p).Holds s
  alDia : InSync programa (fun _ w => w.toca p.jugadaId = true)
    (fun _ => p.Actualizada) s
  quieta : programa.Quiet s

theorem sincronizada_inicial {p : Partida} {db : BaseDatos}
    (h : p.Abierta db) : p.Sincronizada (p.inicial db) :=
  ⟨asientos_inicial h, nofun, fun _ _ => rfl⟩

theorem Sincronizada.step {p : Partida} {s s' : Estado} {a : Paso}
    (h : p.Sincronizada s) (hlatest : Latest s a)
    (hstep : programa.step s a = some s') : p.Sincronizada s' :=
  ⟨asientos_step h.asientos hstep,
    InSync.step p.pantallas_siguen h.asientos h.alDia hlatest hstep,
    Program.step_quiet h.quieta hstep⟩

theorem Sincronizada.run {p : Partida} {s t : Estado} {acts : List Paso}
    (h : p.Sincronizada s) (hlatest : Runs.Along programa.step Latest s acts)
    (hrun : Runs.run programa.step s acts = some t) : p.Sincronizada t :=
  Runs.invariant (fun _ _ _ => Sincronizada.step) h hlatest hrun

/-- At rest a screen that listens shows the match of the database. -/
theorem Sincronizada.muestra {p : Partida} {s : Estado} {l : Lado}
    (h : p.Sincronizada s) (hrest : AtRest s)
    (hlis : (s.client l).escucha = true) : p.Actualizada s.server (s.client l) :=
  h.alDia.shows_of_atRest hrest hlis

/-- Whatever the two players have done, and in whatever order their writes have
arrived: when the network is at rest, both screens show the one match that the
database has. -/
theorem acuerdo_en_reposo {p : Partida} {db : BaseDatos} {acts : List Paso}
    {s : Estado} (hdb : p.Abierta db)
    (hrun : Runs.run programa.step (p.inicial db) acts = some s)
    (hlatest : Runs.Along programa.step Latest (p.inicial db) acts)
    (hrest : AtRest s) :
    ∃ j, s.server.jugadas p.jugadaId = some j ∧
      ∀ l, (s.client l).escucha = true → MultPlayer.Muestra j (s.client l) := by
  have hsinc := (sincronizada_inicial hdb).run hlatest hrun
  obtain ⟨j, hj, -⟩ := hsinc.asientos.server
  refine ⟨j, hj, fun l hlis => ?_⟩
  obtain ⟨k, hk, hm⟩ := hsinc.muestra hrest hlis
  rw [hj] at hk
  cases hk
  exact hm

/-- Both players enter, score one after the other, and the network comes to
rest. -/
def tocanYReposan : List Paso :=
  entra .uno ++ entra .dos ++
    [.event .uno (.mult (.clic .IvjUno (sale 1))), .event .dos (.mult (.clic .IvjDos (sale 2))),
      .arrive .uno, .arrive .dos, .confirm .uno, .confirm .dos, .deliver .uno,
      .deliver .uno, .skip .dos, .deliver .dos]

theorem acuerdo_deAyB :
    ∃ s, Runs.run programa.step (deAyB.inicial baseAyB) tocanYReposan =
        some s ∧ AtRest s ∧
      ∃ j, s.server.jugadas "j" = some j ∧
        ∀ l, (s.client l).escucha = true →
          MultPlayer.Muestra j (s.client l) := by
  have hreposo : (Runs.run programa.step (deAyB.inicial baseAyB)
      tocanYReposan).map (fun s => decide (AtRest s)) = some true := by decide
  obtain ⟨s, hrun, hrest⟩ := Option.map_eq_some_iff.mp hreposo
  rw [decide_eq_true_eq] at hrest
  exact ⟨s, hrun, hrest, acuerdo_en_reposo ⟨_, rfl, rfl, Or.inr rfl⟩ hrun
    (by decide) hrest⟩

/-- From every state that the two devices can bring about the network comes to
rest by itself, and then both screens show the match of the database. -/
theorem alcanza_acuerdo {p : Partida} {db : BaseDatos} {acts : List Paso}
    {s : Estado} (hdb : p.Abierta db)
    (hrun : Runs.run programa.step (p.inicial db) acts = some s)
    (hlatest : Runs.Along programa.step Latest (p.inicial db) acts) :
    ∃ (resto : List Paso) (t : Estado), (∀ a ∈ resto, a.moves = true) ∧
      Runs.run programa.step s resto = some t ∧ AtRest t ∧
      ∀ l, (t.client l).escucha = true → p.Actualizada t.server (t.client l) := by
  have hsinc := (sincronizada_inicial hdb).run hlatest hrun
  have hcalla : ∀ ws d (m : MultPlayer), (programa.snapshot ws d m).2 = [] := by
    intro ws d m
    rcases MultPlayer.snapshot_cases ws d m with hsame | ⟨-, -, _, _, -, hsnap, -⟩
    · exact congrArg Prod.snd hsame
    · exact congrArg Prod.snd hsnap
  obtain ⟨resto, t, hmoves, hresto, hrest⟩ :=
    exists_atRest (fun _ _ _ => rfl) hcalla s hsinc.quieta
  have hlast : Runs.Along programa.step Latest s resto :=
    Runs.Along.of_invariant (fun _ _ _ _ _ _ => trivial)
      (fun s a _ hmove => latest_of_moves hmove s) trivial
      (Runs.Along.of_mem hmoves)
  exact ⟨resto, t, hmoves, hresto, hrest,
    fun l => (hsinc.run hlast hresto).muestra hrest⟩

/-- One player has scored and the other goes back: everything is still on its
way. -/
def tocaYAbandonan : List Paso :=
  entra .uno ++ entra .dos ++
    [.event .uno (.mult (.clic .IvjUno (sale 1))), .event .dos (.mult .onBackPressed)]

theorem alcanza_acuerdo_deAyB :
    ∃ s, Runs.run programa.step (deAyB.inicial baseAyB) tocaYAbandonan =
        some s ∧ ¬AtRest s ∧
      ∃ (resto : List Paso) (t : Estado), (∀ a ∈ resto, a.moves = true) ∧
        Runs.run programa.step s resto = some t ∧ AtRest t ∧
        ∀ l, (t.client l).escucha = true →
          deAyB.Actualizada t.server (t.client l) := by
  have hcamino : (Runs.run programa.step (deAyB.inicial baseAyB)
      tocaYAbandonan).map (fun s => decide (AtRest s)) = some false := by decide
  obtain ⟨s, hrun, hbusy⟩ := Option.map_eq_some_iff.mp hcamino
  rw [decide_eq_false_iff_not] at hbusy
  exact ⟨s, hrun, hbusy, alcanza_acuerdo ⟨_, rfl, rfl, Or.inr rfl⟩ hrun
    (by decide)⟩

end Partida

end Tocate
