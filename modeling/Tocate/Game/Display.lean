import Tocate.Game.Points

/-!
# What the solo game shows

The texts of the solo game, written by the same methods that count its points:
the order, the points of the round and the points in each dialog.  Without the
texts the methods are those of the screen as it is modelled before.

What the player sees is what is counted: the order on the screen is the one by
which the next tap is scored, the points on the screen are those of the round,
and the points in the dialogs add up to what the record has been given.
-/

namespace Tocate.GameActivity

open Cloud Sesiones

/-- The texts of the dialog of a round that is over. -/
structure Dialogo where
  /-- The player who is told `Ganaste`. -/
  tvGanador : String
  tvPuntos : ℤ
deriving DecidableEq, Repr

/-- The game with the texts on its screen.  A text that has not been set is
still that of the layout. -/
structure Pantalla where
  juego : GameActivity
  tvOrden : Option Rotulo := none
  /-- The name and the order in the line above the images. -/
  etInicio : Option (String × Rotulo) := none
  tvAciertos2 : Option ℤ := none
  dialogos : List Dialogo := []
deriving DecidableEq, Repr

/-- The event draws the next order. -/
def Suceso.sortea : Suceso → Bool
  | .prepara _ | .clicFotoPerfil _ | .clicIvjDos _ | .reiniciar _ _ => true
  | _ => false

/-- Without a new order points and order stay. -/
theorem juego_of_not_sortea {s s' : Mesa} {e : Suceso} (he : e.sortea = false)
    (h : avanza s e = some s') : s'.2.juego = s.2.juego := by
  rcases juego_cases h with ⟨aleatorio, rfl, -⟩ | ⟨aleatorio, rfl, -⟩ |
    ⟨aleatorio, rfl | ⟨d, rfl⟩, -⟩ | ⟨-, -, hjuego⟩
  · cases he
  · cases he
  · cases he
  · cases he
  · exact hjuego

namespace Pantalla

abbrev Turno := Outcome Pantalla Escritura

def sigue (p : Pantalla) : Turno := { state := p }

/-- A method that sets no text. -/
def lleva (t : GameActivity.Turno) (p : Pantalla) : Turno where
  state := { p with juego := t.state }
  writes := t.writes
  failed := t.failed

def EtTocate (varTocate : Fin 2) (p : Pantalla) : Pantalla :=
  match varTocate with
  | 0 =>
      { p with
        tvOrden := some .SetTocate
        etInicio := some (p.juego.nombreJuno, .SetTocate) }
  | 1 =>
      { p with
        tvOrden := some .SetTocame1
        etInicio := some (p.juego.nombreJuno, .SetTocame1) }

def actualizarAciertos (aleatorio : Fin 2) (p : Pantalla) : Pantalla :=
  let p := EtTocate aleatorio { p with juego := { p.juego with n := aleatorio } }
  { p with tvAciertos2 := some p.juego.puntosUid }

def onClickFotoPerfil (aleatorio : Fin 2) (p : Pantalla) : Pantalla :=
  actualizarAciertos aleatorio
    { p with
      juego :=
        { p.juego with
          puntosUid := puntosFotoPerfil p.juego.n p.juego.puntosUid } }

def onClickIvjDos (aleatorio : Fin 2) (p : Pantalla) : Pantalla :=
  actualizarAciertos aleatorio
    { p with
      juego :=
        { p.juego with
          puntosUid := puntosIvjDos p.juego.n p.juego.puntosUid } }

def dialogo_Gameover (p : Pantalla) : Turno :=
  (lleva p.juego.dialogo_Gameover p).andThen fun q =>
    sigue
      { q with
        dialogos := q.dialogos ++
          [{ tvGanador := q.juego.nombreJuno, tvPuntos := q.juego.puntosUid }] }

def funcionGameover (p : Pantalla) : Turno :=
  match p.juego.userjUno with
  | none =>
      { state := { p with juego := { p.juego with isPause := true } }
        failed := true }
  | some l =>
      ({ state :=
          { p with
            juego :=
              { p.juego with
                isPause := true
                userjUno := some (acreditada l p.juego.puntosUid) } }
         writes :=
          [.setUser p.juego.uid (acreditada l p.juego.puntosUid)] :
        Turno }).andThen dialogo_Gameover

def onFinish (t : ℕ) (p : Pantalla) : Turno :=
  let p :=
    { p with juego := { p.juego with relojes := p.juego.relojes.erase t } }
  if p.juego.isParche then funcionGameover p else sigue p

/-- The delayed set-up of `onCreate`. -/
def prepara (aleatorio : Fin 2) (p : Pantalla) : Turno :=
  sigue (actualizarAciertos aleatorio
    { p with juego := { p.juego with puntosUid := 0, preparada := true } })

/-- The button `reinicio` of dialog `d`. -/
def reiniciar (d : ℕ) (aleatorio : Fin 2) (p : Pantalla) : Turno :=
  let p := actualizarAciertos aleatorio
    { p with juego := { p.juego with puntosUid := 0 } }
  (lleva (cancelaCountDownTimerDial
    { p.juego with abiertos := p.juego.abiertos.erase d }) p).andThen fun q =>
      sigue
        { q with
          juego := onResume { q.juego with isPause := false, isParche := true } }

def atiende (vista : BaseDatos) (p : Pantalla) : Suceso → Option Turno
  | .prepara aleatorio =>
      if p.juego.creada ∧ ¬p.juego.preparada then some (p.prepara aleatorio)
      else none
  | .clicFotoPerfil aleatorio =>
      if p.juego.preparada ∧ p.juego.enFrente ∧ p.juego.abiertos = [] then
        some (sigue (p.onClickFotoPerfil aleatorio))
      else none
  | .clicIvjDos aleatorio =>
      if p.juego.preparada ∧ p.juego.enFrente ∧ p.juego.abiertos = [] then
        some (sigue (p.onClickIvjDos aleatorio))
      else none
  | .onFinish t => if t ∈ p.juego.relojes then some (p.onFinish t) else none
  | .reiniciar d aleatorio =>
      if p.juego.enFrente ∧ d ∈ p.juego.abiertos then
        some (p.reiniciar d aleatorio)
      else none
  | e => (p.juego.atiende vista e).map fun t => lleva t p

/-- An uncaught exception takes the app down. -/
def cierra (t : Turno) : Pantalla :=
  { t.state with
    juego := { t.state.juego with caida := t.state.juego.caida || t.failed } }

/-- A step of the game with its texts, over the database. -/
def avanza (s : BaseDatos × Pantalla) (e : Suceso) :
    Option (BaseDatos × Pantalla) :=
  if s.2.juego.caida then none
  else
    (s.2.atiende s.1 e).map fun t => (escribe s.1 t.writes, cierra t)

def nueva (uid : String) : Pantalla where
  juego := GameActivity.nueva uid

/-! ## Without the texts -/

/-- What a method does apart from the texts. -/
def sinTextos (t : Turno) : GameActivity.Turno where
  state := t.state.juego
  writes := t.writes
  failed := t.failed

@[simp] theorem sinTextos_lleva (t : GameActivity.Turno) (p : Pantalla) :
    sinTextos (lleva t p) = t := rfl

theorem sinTextos_andThen {t : Turno} {f : Pantalla → Turno}
    {g : GameActivity → GameActivity.Turno}
    (h : ∀ p, sinTextos (f p) = g p.juego) :
    sinTextos (t.andThen f) = (sinTextos t).andThen g := by
  obtain ⟨p, ws, failed⟩ := t
  cases failed with
  | true => rfl
  | false =>
      simp only [sinTextos, Outcome.andThen_mk_false, ← h p]

@[simp] theorem EtTocate_juego (varTocate : Fin 2) (p : Pantalla) :
    (EtTocate varTocate p).juego = p.juego := by
  match varTocate with
  | 0 => rfl
  | 1 => rfl

@[simp] theorem actualizarAciertos_juego (aleatorio : Fin 2) (p : Pantalla) :
    (actualizarAciertos aleatorio p).juego =
      GameActivity.actualizarAciertos aleatorio p.juego :=
  EtTocate_juego aleatorio _

theorem andThen_sigue (t : GameActivity.Turno) :
    t.andThen GameActivity.sigue = t := by
  obtain ⟨m, ws, failed⟩ := t
  cases failed with
  | true => rfl
  | false =>
      rw [Outcome.andThen_mk_false]
      simp only [GameActivity.sigue, List.append_nil]

theorem sinTextos_dialogo_Gameover (p : Pantalla) :
    sinTextos p.dialogo_Gameover = p.juego.dialogo_Gameover := by
  unfold dialogo_Gameover
  rw [sinTextos_andThen (g := GameActivity.sigue) fun _ => rfl, sinTextos_lleva,
    andThen_sigue]

theorem sinTextos_funcionGameover (p : Pantalla) :
    sinTextos p.funcionGameover = p.juego.funcionGameover := by
  obtain ⟨⟨uid, userjUno⟩⟩ := p
  cases userjUno with
  | none => rfl
  | some l => exact sinTextos_andThen sinTextos_dialogo_Gameover

theorem sinTextos_onFinish (t : ℕ) (p : Pantalla) :
    sinTextos (p.onFinish t) = p.juego.onFinish t := by
  unfold onFinish GameActivity.onFinish
  dsimp only
  split
  · exact sinTextos_funcionGameover _
  · rfl

theorem sinTextos_reiniciar (d : ℕ) (aleatorio : Fin 2) (p : Pantalla) :
    sinTextos (p.reiniciar d aleatorio) = p.juego.reiniciar d aleatorio := by
  unfold reiniciar GameActivity.reiniciar
  dsimp only
  rw [sinTextos_andThen (g := fun m => GameActivity.sigue
    (onResume { m with isPause := false, isParche := true })) fun _ => rfl,
    sinTextos_lleva, actualizarAciertos_juego]
  rfl

/-- Without the texts the screen does what the game does. -/
theorem sinTextos_atiende (vista : BaseDatos) (p : Pantalla) (e : Suceso) :
    (p.atiende vista e).map sinTextos = p.juego.atiende vista e := by
  have hsi : ∀ {c : Prop} [Decidable c] {t : Turno} {u : GameActivity.Turno},
      sinTextos t = u →
      (if c then some t else none).map sinTextos = if c then some u else none := by
    intro c _ t u h
    split
    · exact congrArg some h
    · rfl
  have hlleva : ∀ o : Option GameActivity.Turno,
      (o.map fun t => lleva t p).map sinTextos = o := by
    intro o
    cases o with
    | none => rfl
    | some t => rfl
  cases e with
  | prepara aleatorio =>
      refine hsi ?_
      unfold prepara GameActivity.prepara sinTextos sigue GameActivity.sigue
      rw [actualizarAciertos_juego]
  | clicFotoPerfil aleatorio =>
      refine hsi ?_
      unfold onClickFotoPerfil GameActivity.onClickFotoPerfil sinTextos sigue
        GameActivity.sigue
      rw [actualizarAciertos_juego]
  | clicIvjDos aleatorio =>
      refine hsi ?_
      unfold onClickIvjDos GameActivity.onClickIvjDos sinTextos sigue
        GameActivity.sigue
      rw [actualizarAciertos_juego]
  | onFinish t => exact hsi (sinTextos_onFinish t p)
  | reiniciar d aleatorio => exact hsi (sinTextos_reiniciar d aleatorio p)
  | onCreate => exact hlleva _
  | user => exact hlleva _
  | onResume => exact hlleva _
  | onPause => exact hlleva _
  | onStop => exact hlleva _
  | onBackPressed => exact hlleva _
  | ranking d => exact hlleva _
  | onFinishDial d => exact hlleva _

variable {s s' : BaseDatos × Pantalla} {e : Suceso}

theorem avanza_eq_some (h : avanza s e = some s') :
    ∃ t, s.2.atiende s.1 e = some t ∧
      s' = (escribe s.1 t.writes, cierra t) := by
  obtain ⟨-, hmap⟩ := Option.ite_none_left_eq_some.mp h
  obtain ⟨t, ht, hs⟩ := Option.map_eq_some_iff.mp hmap
  exact ⟨t, ht, hs.symm⟩

/-- A step with texts is a step of the game. -/
theorem avanza_juego (h : avanza s e = some s') :
    GameActivity.avanza (s.1, s.2.juego) e = some (s'.1, s'.2.juego) := by
  obtain ⟨hviva, -⟩ := Option.ite_none_left_eq_some.mp h
  obtain ⟨t, ht, rfl⟩ := avanza_eq_some h
  have hsin : s.2.juego.atiende s.1 e = some (sinTextos t) := by
    rw [← sinTextos_atiende, ht]
    rfl
  simp only [GameActivity.avanza, GameActivity.react, hviva, hsin]
  rfl

/-! ## What a step makes of the texts -/

/-- Order and points on the screen are those of the game. -/
structure AlDia (p : Pantalla) : Prop where
  orden : p.tvOrden = some (GameActivity.EtTocate p.juego.n)
  aciertos : p.tvAciertos2 = some p.juego.puntosUid

theorem alDia_actualizarAciertos (aleatorio : Fin 2) (p : Pantalla) :
    AlDia (actualizarAciertos aleatorio p) ∧
      (actualizarAciertos aleatorio p).dialogos = p.dialogos := by
  match aleatorio with
  | 0 => exact ⟨⟨rfl, rfl⟩, rfl⟩
  | 1 => exact ⟨⟨rfl, rfl⟩, rfl⟩

theorem AlDia.of_igual {p q : Pantalla} (h : AlDia p)
    (htextos : q.tvOrden = p.tvOrden ∧ q.tvAciertos2 = p.tvAciertos2)
    (hjuego : q.juego.puntosUid = p.juego.puntosUid ∧ q.juego.n = p.juego.n) :
    AlDia q := by
  refine ⟨?_, ?_⟩
  · rw [htextos.1, hjuego.2]
    exact h.orden
  · rw [htextos.2, hjuego.1]
    exact h.aciertos

/-- The button `reinicio` draws an order. -/
theorem alDia_reiniciar (d : ℕ) (aleatorio : Fin 2) (p : Pantalla) :
    AlDia (p.reiniciar d aleatorio).state ∧
      (p.reiniciar d aleatorio).state.dialogos = p.dialogos := by
  obtain ⟨hdia, hdial⟩ := alDia_actualizarAciertos aleatorio
    { p with juego := { p.juego with puntosUid := 0 } }
  unfold reiniciar cancelaCountDownTimerDial
  dsimp only
  split
  · exact ⟨hdia.of_igual ⟨rfl, rfl⟩ ⟨rfl, rfl⟩, hdial⟩
  · refine ⟨hdia.of_igual ⟨rfl, rfl⟩ ?_, hdial⟩
    simp only [lleva, GameActivity.sigue, sigue, Outcome.andThen_mk_false,
      onResume_eq]
    exact ⟨rfl, rfl⟩

/-- The end of a round leaves order and points alone; the dialog of a round that
is credited shows its points, unless the app goes down. -/
theorem onFinish_textos (t : ℕ) (p : Pantalla) :
    ((p.onFinish t).state.tvOrden = p.tvOrden ∧
      (p.onFinish t).state.tvAciertos2 = p.tvAciertos2) ∧
    ((p.onFinish t).failed = false →
      ((p.juego.isParche = true ∧ p.juego.userjUno ≠ none) ∧
        ∃ nombre, (p.onFinish t).state.dialogos =
          p.dialogos ++ [{ tvGanador := nombre, tvPuntos := p.juego.puntosUid }]) ∨
      (p.juego.isParche = false ∧
        (p.onFinish t).state.dialogos = p.dialogos)) := by
  unfold onFinish
  dsimp only
  split
  next hparche =>
    unfold funcionGameover
    split
    · exact ⟨⟨rfl, rfl⟩, nofun⟩
    next l hl =>
      simp only [Outcome.andThen_mk_false]
      unfold dialogo_Gameover GameActivity.dialogo_Gameover
      split
      · exact ⟨⟨rfl, rfl⟩, nofun⟩
      · refine ⟨⟨rfl, rfl⟩, fun _ => Or.inl ⟨⟨hparche, ?_⟩, _, rfl⟩⟩
        exact hl ▸ Option.some_ne_none l
  next hparche =>
    exact ⟨⟨rfl, rfl⟩, fun _ => Or.inr ⟨by simpa using hparche, rfl⟩⟩

/-- A step draws an order, ends a round, or leaves the texts alone. -/
theorem textos_cases (h : avanza s e = some s') :
    (e.sortea = true ∧ e.esGameover = false ∧ AlDia s'.2 ∧
      s'.2.dialogos = s.2.dialogos) ∨
    (∃ t, e = .onFinish t ∧ s'.2 = cierra (s.2.onFinish t)) ∨
    (e.sortea = false ∧ e.esGameover = false ∧ s'.2.tvOrden = s.2.tvOrden ∧
      s'.2.tvAciertos2 = s.2.tvAciertos2 ∧
      s'.2.dialogos = s.2.dialogos) := by
  obtain ⟨t, ht, rfl⟩ := avanza_eq_some h
  have hlleva : ∀ {o : Option GameActivity.Turno},
      (o.map fun u => lleva u s.2) = some t →
      (cierra t).tvOrden = s.2.tvOrden ∧
        (cierra t).tvAciertos2 = s.2.tvAciertos2 ∧
        (cierra t).dialogos = s.2.dialogos := by
    intro o ho
    obtain ⟨u, -, rfl⟩ := Option.map_eq_some_iff.mp ho
    exact ⟨rfl, rfl, rfl⟩
  have hcierra : ∀ {u : Turno}, AlDia u.state → AlDia (cierra u) :=
    fun hu => hu.of_igual ⟨rfl, rfl⟩ ⟨rfl, rfl⟩
  cases e with
  | prepara aleatorio =>
      obtain ⟨-, ⟨⟩⟩ := Option.ite_none_right_eq_some.mp ht
      obtain ⟨hdia, hdial⟩ := alDia_actualizarAciertos aleatorio _
      exact Or.inl ⟨rfl, rfl, hcierra hdia, hdial⟩
  | clicFotoPerfil aleatorio =>
      obtain ⟨-, ⟨⟩⟩ := Option.ite_none_right_eq_some.mp ht
      obtain ⟨hdia, hdial⟩ := alDia_actualizarAciertos aleatorio _
      exact Or.inl ⟨rfl, rfl, hcierra hdia, hdial⟩
  | clicIvjDos aleatorio =>
      obtain ⟨-, ⟨⟩⟩ := Option.ite_none_right_eq_some.mp ht
      obtain ⟨hdia, hdial⟩ := alDia_actualizarAciertos aleatorio _
      exact Or.inl ⟨rfl, rfl, hcierra hdia, hdial⟩
  | reiniciar d aleatorio =>
      obtain ⟨-, ⟨⟩⟩ := Option.ite_none_right_eq_some.mp ht
      obtain ⟨hdia, hdial⟩ := alDia_reiniciar d aleatorio s.2
      exact Or.inl ⟨rfl, rfl, hcierra hdia, hdial⟩
  | onFinish n =>
      obtain ⟨-, ⟨⟩⟩ := Option.ite_none_right_eq_some.mp ht
      exact Or.inr (Or.inl ⟨n, rfl, rfl⟩)
  | onCreate => exact Or.inr (Or.inr ⟨rfl, rfl, hlleva ht⟩)
  | user => exact Or.inr (Or.inr ⟨rfl, rfl, hlleva ht⟩)
  | onResume => exact Or.inr (Or.inr ⟨rfl, rfl, hlleva ht⟩)
  | onPause => exact Or.inr (Or.inr ⟨rfl, rfl, hlleva ht⟩)
  | onStop => exact Or.inr (Or.inr ⟨rfl, rfl, hlleva ht⟩)
  | onBackPressed => exact Or.inr (Or.inr ⟨rfl, rfl, hlleva ht⟩)
  | ranking d => exact Or.inr (Or.inr ⟨rfl, rfl, hlleva ht⟩)
  | onFinishDial d => exact Or.inr (Or.inr ⟨rfl, rfl, hlleva ht⟩)

/-- What the screen shows is what the game has counted and what the record has
been given. -/
structure Fiel (uid : String) (v : ℤ × ℤ) (s : BaseDatos × Pantalla) :
    Prop where
  suyo : s.2.juego.uid = uid
  alDia : s.2.juego.preparada = true → AlDia s.2
  copia : ∀ l, s.2.juego.userjUno = some l →
    l.user.cuenta = guardado s.1 s.2.juego.uid
  cuenta : s.2.juego.caida = false →
    guardado s.1 s.2.juego.uid =
      (v.1 + (s.2.dialogos.map Dialogo.tvPuntos).sum, v.2 + s.2.dialogos.length)

/-- Order and points on the screen after a step. -/
theorem Fiel.alDia_step {uid : String} {v : ℤ × ℤ} (h : Fiel uid v s)
    (hstep : avanza s e = some s') (hprep : s'.2.juego.preparada = true) :
    AlDia s'.2 := by
  have hsin : e.sortea = false → s'.2.tvOrden = s.2.tvOrden ∧
      s'.2.tvAciertos2 = s.2.tvAciertos2 → AlDia s'.2 := by
    intro he htextos
    have hjuego := juego_of_not_sortea he (avanza_juego hstep)
    simp only [GameActivity.juego, Prod.mk.injEq] at hjuego
    obtain ⟨hpuntos, hn, hlista⟩ := hjuego
    exact (h.alDia (hlista ▸ hprep)).of_igual htextos ⟨hpuntos, hn⟩
  rcases textos_cases hstep with ⟨-, -, hdia, -⟩ | ⟨t, rfl, hfin⟩ |
    ⟨he, -, horden, hac, -⟩
  · exact hdia
  · refine hsin rfl ?_
    rw [hfin]
    exact (onFinish_textos t s.2).1
  · exact hsin he ⟨horden, hac⟩

/-- The dialogs on the screen after a step. -/
theorem Fiel.cuenta_step {uid : String} {v : ℤ × ℤ} (h : Fiel uid v s)
    (hstep : avanza s e = some s') (hviva : s'.2.juego.caida = false) :
    guardado s'.1 s'.2.juego.uid =
      (v.1 + (s'.2.dialogos.map Dialogo.tvPuntos).sum,
        v.2 + s'.2.dialogos.length) := by
  have hantes : s.2.juego.caida = false := by
    obtain ⟨hno, -⟩ := Option.ite_none_left_eq_some.mp hstep
    exact Bool.not_eq_true _ ▸ hno
  have hcuenta := h.cuenta hantes
  obtain ⟨⟨m', ws⟩, hr, heq⟩ := Option.map_eq_some_iff.mp (avanza_juego hstep)
  obtain ⟨hdb, hm'⟩ := Prod.mk.inj heq
  dsimp only at hdb hm'
  -- a step that credits nothing opens no dialog
  have hnada : ws = [] → m'.uid = s.2.juego.uid →
      s'.2.dialogos = s.2.dialogos → guardado s'.1 s'.2.juego.uid =
        (v.1 + (s'.2.dialogos.map Dialogo.tvPuntos).sum,
          v.2 + s'.2.dialogos.length) := by
    intro hws huid hdial
    rw [← hdb, ← hm', hws, huid, hdial]
    exact hcuenta
  rcases textos_cases hstep with ⟨-, he, -, hdial⟩ | ⟨t, rfl, hfin⟩ |
    ⟨-, he, -, -, hdial⟩
  · rcases react_cases hr with ⟨hgame, -⟩ | ⟨-, hl⟩ | ⟨-, -, hq⟩
    · rw [he] at hgame
      cases hgame
    · exact hnada hl.writes hl.uid hdial
    · exact hnada hq.writes hq.uid hdial
  · have hsigue : (s.2.onFinish t).failed = false := by
      rw [hfin] at hviva
      simp only [cierra, Bool.or_eq_false_iff] at hviva
      exact hviva.2
    have hdial : s'.2.dialogos = (s.2.onFinish t).state.dialogos := by
      rw [hfin]
      rfl
    rcases react_cases hr with ⟨-, hparche, l, ht⟩ | ⟨hno, -⟩ |
      ⟨-, hgame, hq⟩
    · rcases (onFinish_textos t s.2).2 hsigue with ⟨-, nombre, hnuevo⟩ |
        ⟨hno, -⟩
      · have hguarda : guardado s'.1 s'.2.juego.uid =
            suma s.2.juego.puntosUid (guardado s.1 s.2.juego.uid) := by
          rw [← h.copia l ht.antes, ← hdb, ← hm', ht.uid, ht.writes]
          exact guardado_of_some (s.1.aplicar_setUser s.2.juego.uid _)
        rw [hguarda, hcuenta, hdial, hnuevo]
        simp only [suma, List.map_append, List.map_singleton, List.sum_append,
          List.sum_singleton, List.length_append, List.length_singleton,
          Prod.mk.injEq]
        push_cast
        omega
      · rw [hparche] at hno
        cases hno
    · cases hno
    · rcases (onFinish_textos t s.2).2 hsigue with ⟨⟨hparche, hl⟩, -⟩ |
        ⟨-, hmismo⟩
      · rcases hgame with hno | hno | hno
        · cases hno
        · rw [hparche] at hno
          cases hno
        · exact absurd hno hl
      · exact hnada hq.writes hq.uid (hdial.trans hmismo)
  · rcases react_cases hr with ⟨hgame, -⟩ | ⟨-, hl⟩ | ⟨-, -, hq⟩
    · rw [he] at hgame
      cases hgame
    · exact hnada hl.writes hl.uid hdial
    · exact hnada hq.writes hq.uid hdial

/-- The screen stays that of its user. -/
theorem uid_step (hstep : avanza s e = some s') :
    s'.2.juego.uid = s.2.juego.uid := by
  obtain ⟨⟨m', ws⟩, hr, heq⟩ := Option.map_eq_some_iff.mp (avanza_juego hstep)
  obtain ⟨-, hm'⟩ := Prod.mk.inj heq
  dsimp only at hm'
  rw [← hm']
  rcases react_cases hr with ⟨-, -, l, ht⟩ | ⟨-, hl⟩ | ⟨-, -, hq⟩
  · exact ht.uid
  · exact hl.uid
  · exact hq.uid

theorem Fiel.step {uid : String} {v : ℤ × ℤ} (h : Fiel uid v s)
    (hstep : avanza s e = some s') : Fiel uid v s' :=
  ⟨(uid_step hstep).trans h.suyo, h.alDia_step hstep,
    (copia_step h.copia (avanza_juego hstep)).1, h.cuenta_step hstep⟩

theorem fiel_nueva (uid : String) (db : BaseDatos) :
    Fiel uid (guardado db uid) (db, nueva uid) :=
  ⟨rfl, nofun, nofun, fun _ => by simp [nueva, GameActivity.nueva]⟩

theorem fiel_run {uid : String} {db : BaseDatos} {es : List Suceso}
    (hrun : Runs.run avanza (db, nueva uid) es = some s) :
    Fiel uid (guardado db uid) s :=
  Runs.invariant_of_step (fun _ _ _ => Fiel.step) (fiel_nueva uid db) hrun

/-- In every state of a solo game that can be played the screen shows the order
by which the next tap is scored and the points of the round; and as long as the
app is up, the points in the dialogs add up to what the record has gained, one
game for each dialog. -/
theorem lo_mostrado_cuenta {uid : String} {db : BaseDatos} {es : List Suceso}
    (hrun : Runs.run avanza (db, nueva uid) es = some s) :
    (s.2.juego.preparada = true →
      s.2.tvOrden = some (GameActivity.EtTocate s.2.juego.n) ∧
        s.2.tvAciertos2 = some s.2.juego.puntosUid) ∧
    (s.2.juego.caida = false →
      guardado s.1 uid =
        ((guardado db uid).1 + (s.2.dialogos.map Dialogo.tvPuntos).sum,
          (guardado db uid).2 + s.2.dialogos.length)) := by
  have hfiel := fiel_run hrun
  refine ⟨fun hprep => ⟨(hfiel.alDia hprep).orden, (hfiel.alDia hprep).aciertos⟩,
    fun hviva => ?_⟩
  have hcuenta := hfiel.cuenta hviva
  rwa [hfiel.suyo] at hcuenta

/-- Ana scores twice and once more against the order; the round ends. -/
theorem lo_mostrado_cuenta_ana :
    ∃ s, Runs.run avanza (conAna, nueva "a") rondaCobrada = some s ∧
      s.2.tvAciertos2 = some s.2.juego.puntosUid ∧
      guardado s.1 "a" =
        (10 + (s.2.dialogos.map Dialogo.tvPuntos).sum,
          (4 : ℤ) + s.2.dialogos.length) := by
  refine ⟨_, rfl, ?_⟩
  obtain ⟨hmuestra, hcuenta⟩ := lo_mostrado_cuenta
    (show Runs.run avanza (conAna, nueva "a") rondaCobrada = some _ from rfl)
  exact ⟨(hmuestra rfl).2, hcuenta rfl⟩

/-! ## Obeying the order on the screen -/

/-- The two images and the events of a tap on them. -/
inductive Imagen where
  | fotoPerfil
  | IvjDos
deriving DecidableEq, Repr

/-- A tap on the image, after which `aleatorio` is drawn. -/
def Imagen.clic (aleatorio : Fin 2) : Imagen → Suceso
  | .fotoPerfil => .clicFotoPerfil aleatorio
  | .IvjDos => .clicIvjDos aleatorio

/-- The text that asks for a tap on the image. -/
def Imagen.rotulo : Imagen → Rotulo
  | .fotoPerfil => .SetTocate
  | .IvjDos => .SetTocame1

/-- What a tap on the image makes of the points under order `n`. -/
def Imagen.puntos : Imagen → Fin 2 → ℤ → ℤ
  | .fotoPerfil => puntosFotoPerfil
  | .IvjDos => puntosIvjDos

/-- The two click handlers and the two texts agree. -/
theorem Imagen.puntos_rotulo (imagen : Imagen) (n : Fin 2) (k : ℤ) :
    (GameActivity.EtTocate n = imagen.rotulo → imagen.puntos n k = k + 1) ∧
      (GameActivity.EtTocate n ≠ imagen.rotulo → imagen.puntos n k ≤ k) := by
  obtain rfl | rfl : n = 0 ∨ n = 1 := by omega
  · cases imagen with
    | fotoPerfil => exact ⟨fun _ => rfl, fun hno => absurd rfl hno⟩
    | IvjDos =>
        refine ⟨fun hpide => absurd hpide (by decide), fun _ => ?_⟩
        simp only [Imagen.puntos, puntosIvjDos]
        split <;> omega
  · cases imagen with
    | fotoPerfil =>
        refine ⟨fun hpide => absurd hpide (by decide), fun _ => ?_⟩
        simp only [Imagen.puntos, puntosFotoPerfil]
        split <;> omega
    | IvjDos => exact ⟨fun _ => rfl, fun hno => absurd rfl hno⟩

/-- A tap is scored by the order of the game. -/
theorem puntos_step {imagen : Imagen} {aleatorio : Fin 2}
    (hstep : avanza s (imagen.clic aleatorio) = some s') :
    s.2.juego.preparada = true ∧
      s'.2.juego.puntosUid =
        imagen.puntos s.2.juego.n s.2.juego.puntosUid ∧ AlDia s'.2 := by
  have hdia : AlDia s'.2 := by
    rcases textos_cases hstep with ⟨-, -, hdia, -⟩ | ⟨t, he, -⟩ | ⟨he, -⟩
    · exact hdia
    · cases imagen <;> cases he
    · cases imagen <;> cases he
  cases imagen with
  | fotoPerfil =>
      rcases juego_cases (avanza_juego hstep) with ⟨-, -, hprep, hpuntos, -⟩ |
        ⟨_, he, -⟩ | ⟨_, he | ⟨_, he⟩, -⟩ | ⟨hno, -, -⟩
      · exact ⟨hprep, hpuntos, hdia⟩
      · cases he
      · cases he
      · cases he
      · exact absurd (hno {}) (by simp [Imagen.clic, contempla, Tablero.toca])
  | IvjDos =>
      rcases juego_cases (avanza_juego hstep) with ⟨_, he, -⟩ |
        ⟨-, -, hprep, hpuntos, -⟩ | ⟨_, he | ⟨_, he⟩, -⟩ | ⟨hno, -, -⟩
      · cases he
      · exact ⟨hprep, hpuntos, hdia⟩
      · cases he
      · cases he
      · exact absurd (hno {}) (by simp [Imagen.clic, contempla, Tablero.toca])

/-- In every state of a solo game a tap on the image that the text on the screen
asks for raises the points on the screen by one, and a tap on the other image
never raises them. -/
theorem obedecer_lo_mostrado {uid : String} {db : BaseDatos} {es : List Suceso}
    (hrun : Runs.run avanza (db, nueva uid) es = some s) {imagen : Imagen}
    {aleatorio : Fin 2} (hstep : avanza s (imagen.clic aleatorio) = some s') :
    ∃ orden puntos puntos', s.2.tvOrden = some orden ∧
      s.2.tvAciertos2 = some puntos ∧ s'.2.tvAciertos2 = some puntos' ∧
      (orden = imagen.rotulo → puntos' = puntos + 1) ∧
      (orden ≠ imagen.rotulo → puntos' ≤ puntos) := by
  obtain ⟨hprep, hpuntos, hdia'⟩ := puntos_step hstep
  have hdia := (fiel_run hrun).alDia hprep
  refine ⟨_, _, _, hdia.orden, hdia.aciertos, hdia'.aciertos, ?_⟩
  rw [hpuntos]
  exact imagen.puntos_rotulo s.2.juego.n s.2.juego.puntosUid

/-- The text asks Ana for a tap on `IvjDos`. -/
theorem obedecer_lo_mostrado_ana :
    ∃ s s', Runs.run avanza (conAna, nueva "a")
        [.onCreate, .prepara (sale 1), .user, .onResume] = some s ∧
      avanza s (Imagen.clic (sale 0) .IvjDos) = some s' ∧
      ∃ orden puntos puntos', s.2.tvOrden = some orden ∧
        s.2.tvAciertos2 = some puntos ∧ s'.2.tvAciertos2 = some puntos' ∧
        (orden = Imagen.IvjDos.rotulo → puntos' = puntos + 1) ∧
        (orden ≠ Imagen.IvjDos.rotulo → puntos' ≤ puntos) :=
  ⟨_, _, rfl, rfl, obedecer_lo_mostrado
    (show Runs.run avanza (conAna, nueva "a")
      [.onCreate, .prepara (sale 1), .user, .onResume] = some _ from rfl) rfl⟩

end Pantalla

end Tocate.GameActivity
