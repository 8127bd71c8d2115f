import Mathlib.Algebra.Ring.Int.Defs
import Tocate.Users.Sessions

/-!
# Credits of overlapping sessions

A session adds its score to the copy of the record that it has loaded, and not
to the record.  While one session waits with its copy, another one may store a
credit, which the first one then overwrites.  The credits of a run add up if and
only if no session credits a copy that is out of date.
-/

namespace Tocate.Sesiones

variable {ι κ : Type*}

/-! ## What is stored -/

theorem escribe_users {ws : List Escritura} (h : ∀ x l, .setUser x l ∉ ws)
    (db : BaseDatos) (x : String) : (escribe db ws).users x = db.users x := by
  induction ws generalizing db with
  | nil => rfl
  | cons w ws ih =>
      have hw : ∀ l, w ≠ .setUser x l := by
        rintro l rfl
        exact h x l List.mem_cons_self
      have hws : ∀ x l, .setUser x l ∉ ws :=
        fun x l hmem => h x l (List.mem_cons_of_mem w hmem)
      calc (escribe db (w :: ws)).users x
          = (escribe (db.aplicar w).1 ws).users x := rfl
        _ = (db.aplicar w).1.users x := ih hws _
        _ = db.users x := db.aplicar_users_of_ne hw

theorem ponOnline_guardado (db : BaseDatos) (uid o : String) :
    guardado (ponOnline db uid o) uid = guardado db uid := by
  unfold ponOnline
  split
  · rfl
  next u hu =>
    rw [guardado_of_some (db.conUser_self uid _), guardado_of_some hu]
    rfl

/-! ## What a step does to the records -/

section Effects

variable [DecidableEq ι] [DecidableEq κ]

theorem registro_conSolo {s : Telefono ι κ} {i : ι}
    {r : GameActivity × List Escritura} {o : Option Leido}
    (h : r.1.userjUno = o) :
    registro (s.conSolo i r) = Function.update (registro s) (.solo i) o := by
  funext c
  by_cases hc : c = .solo i
  · subst hc
    rw [Function.update_self]
    simpa [registro, Telefono.conSolo] using h
  · rw [Function.update_of_ne hc]
    cases c with
    | mult k p => rfl
    | solo i' =>
        have hi : i' ≠ i := fun heq => hc (by rw [heq])
        simp [registro, Telefono.conSolo, hi]

theorem registro_conMult {s : Telefono ι κ} {k : κ}
    {r : MultPlayer × List Escritura} {p : MultPlayer.Puesto}
    {o : Option Leido}
    (h : r.1.registro = Function.update (s.mult k).registro p o) :
    registro (s.conMult k r) =
      Function.update (registro s) (.mult k p) o := by
  funext c
  cases c with
  | solo i =>
      rw [Function.update_of_ne (by simp)]
      rfl
  | mult k' p' =>
      by_cases hk : k' = k
      · subst hk
        have hval : registro (s.conMult k' r) (.mult k' p') =
            r.1.registro p' := by
          simp [registro, Telefono.conMult]
        rw [hval, h]
        by_cases hp : p' = p
        · subst hp
          rw [Function.update_self, Function.update_self]
        · have hne : (Copia.mult k' p' : Copia ι κ) ≠ .mult k' p := by
            simpa using hp
          rw [Function.update_of_ne hp, Function.update_of_ne hne]
          rfl
      · have hne : (Copia.mult k' p' : Copia ι κ) ≠ .mult k p := by
          simp [hk]
        rw [Function.update_of_ne hne]
        simp [registro, Telefono.conMult, hk]

theorem registro_conMult_same {s : Telefono ι κ} {k : κ}
    {r : MultPlayer × List Escritura}
    (h : r.1.registro = (s.mult k).registro) :
    registro (s.conMult k r) = registro s := by
  have hupdate : r.1.registro = Function.update (s.mult k).registro .uno
      ((s.mult k).registro .uno) := by
    rw [Function.update_eq_self, h]
  rw [registro_conMult hupdate]
  exact Function.update_eq_self _ _

theorem registro_conSolo_same {s : Telefono ι κ} {i : ι}
    {r : GameActivity × List Escritura}
    (h : r.1.userjUno = (s.solo i).userjUno) :
    registro (s.conSolo i r) = registro s := by
  rw [registro_conSolo h]
  exact Function.update_eq_self _ _

/-- All sessions are the user's. -/
structure Suyas (uid : String) (s : Telefono ι κ) : Prop where
  solo : ∀ i, (s.solo i).uid = uid
  mult : ∀ k, (s.mult k).uid = uid

omit [DecidableEq κ] in
theorem Suyas.conSolo {uid : String} {s : Telefono ι κ} (hs : Suyas uid s)
    {i : ι} {r : GameActivity × List Escritura}
    (h : r.1.uid = (s.solo i).uid) : Suyas uid (s.conSolo i r) := by
  refine ⟨fun i' => ?_, hs.mult⟩
  by_cases hi : i' = i
  · subst hi
    simpa [Telefono.conSolo, h] using hs.solo i'
  · simpa [Telefono.conSolo, hi] using hs.solo i'

omit [DecidableEq ι] in
theorem Suyas.conMult {uid : String} {s : Telefono ι κ} (hs : Suyas uid s)
    {k : κ} {r : MultPlayer × List Escritura}
    (h : r.1.uid = (s.mult k).uid) : Suyas uid (s.conMult k r) := by
  refine ⟨hs.solo, fun k' => ?_⟩
  by_cases hk : k' = k
  · subst hk
    simpa [Telefono.conMult, h] using hs.mult k'
  · simpa [Telefono.conMult, hk] using hs.mult k'

/-- The step credits the record `l` of copy `c` and stores it. -/
structure Acredita (uid : String) (s : Telefono ι κ) (a : Paso ι κ)
    (c : Copia ι κ) (l : Leido) (s' : Telefono ι κ) : Prop where
  credito : credito s a = some (c, l)
  antes : registro s c = some l
  nuevo : ∃ l' pre, l'.de = l.de ∧
    l'.user.cuenta = suma (puntos s a) l.user.cuenta ∧
    registro s' = Function.update (registro s) c (some l') ∧
    escrituras s a = pre ++ [.setUser uid l'] ∧
    (∀ x k, .setUser x k ∉ pre) ∧
    s'.db.users uid = some l'.user

/-- The step replaces copy `c` by the document `users/{x}`. -/
structure Lee (uid : String) (s : Telefono ι κ) (a : Paso ι κ)
    (c : Copia ι κ) (x : String) (s' : Telefono ι κ) : Prop where
  credito : credito s a = none
  lectura : lectura s a = some (c, x)
  registro : registro s' = Function.update (registro s) c
    ((s.db.users x).map fun u => { de := x, user := u })
  escrituras : ∀ y l, .setUser y l ∉ escrituras s a
  guardado : guardado s'.db uid = guardado s.db uid

/-- The step touches neither the copies nor points and games. -/
structure Respeta (uid : String) (s : Telefono ι κ) (a : Paso ι κ)
    (s' : Telefono ι κ) : Prop where
  credito : credito s a = none
  lectura : lectura s a = none
  registro : registro s' = registro s
  escrituras : ∀ x l, .setUser x l ∉ escrituras s a
  guardado : guardado s'.db uid = guardado s.db uid

/-- What a step does to the records. -/
def Efecto (uid : String) (s : Telefono ι κ) (a : Paso ι κ)
    (s' : Telefono ι κ) : Prop :=
  (∃ c l, Acredita uid s a c l s') ∨ (∃ c x, Lee uid s a c x s') ∨
    Respeta uid s a s'

variable {uid : String} {s s' : Telefono ι κ}

theorem efecto_solo (hs : Suyas uid s) {i : ι} {e : GameActivity.Suceso}
    (h : paso uid s (.solo i e) = some s') :
    Suyas uid s' ∧ Efecto uid s (.solo i e) s' := by
  obtain ⟨⟨m, ws⟩, hreact, rfl⟩ := Option.map_eq_some_iff.mp h
  have hws : escrituras s (.solo i e) = ws := by
    simp only [escrituras, hreact, Option.map_some, Option.getD_some]
  rcases GameActivity.react_cases hreact with
    ⟨he, hparche, l, ht⟩ | ⟨rfl, hlee⟩ | ⟨hno, hgame, hq⟩
  · refine ⟨hs.conSolo ht.uid, Or.inl ⟨.solo i, l, ?_, ht.antes, ?_⟩⟩
    · simp only [credito, he, hparche, and_self, if_true, ht.antes,
        Option.map_some]
    · have huid : (s.solo i).uid = uid := hs.solo i
      refine ⟨GameActivity.acreditada l (s.solo i).puntosUid, [], rfl,
        cuenta_acreditada _ _, registro_conSolo ht.despues, ?_,
        fun _ _ => List.not_mem_nil, ?_⟩
      · rw [hws, ht.writes, huid, List.nil_append]
      · simp only [Telefono.conSolo, ht.writes, huid]
        exact s.db.aplicar_setUser uid _
  · refine ⟨hs.conSolo hlee.uid, Or.inr (Or.inl ⟨.solo i, (s.solo i).uid,
      rfl, rfl, registro_conSolo hlee.userjUno, ?_, ?_⟩)⟩
    · rw [hws, hlee.writes]
      exact fun _ _ => List.not_mem_nil
    · simp only [Telefono.conSolo, hlee.writes]
      rfl
  · refine ⟨hs.conSolo hq.uid, Or.inr (Or.inr ⟨?_, ?_,
      registro_conSolo_same hq.userjUno, ?_, ?_⟩)⟩
    · rcases hgame with hgame | hparche | hnone
      · simp only [credito, hgame, Bool.false_eq_true, false_and, if_false]
      · simp only [credito, hparche, Bool.false_eq_true, and_false, if_false]
      · simp only [credito, hnone, Option.map_none, ite_self]
    · cases e <;> first | rfl | exact absurd rfl hno
    · rw [hws, hq.writes]
      exact fun _ _ => List.not_mem_nil
    · simp only [Telefono.conSolo, hq.writes]
      rfl

theorem efecto_mult (hs : Suyas uid s) {k : κ} {e : MultPlayer.Suceso}
    (h : paso uid s (.mult k e) = some s') :
    Suyas uid s' ∧ Efecto uid s (.mult k e) s' := by
  obtain ⟨⟨m, ws⟩, hreact, rfl⟩ := Option.map_eq_some_iff.mp h
  have hws : escrituras s (.mult k e) = ws := by
    simp only [escrituras, hreact, Option.map_some, Option.getD_some]
  rcases MultPlayer.registro_cases hreact with
    ⟨p, l, hcred, ht⟩ | ⟨hcred, p, x, hlect, hlee⟩ | ⟨hcred, hlect, hq⟩
  · obtain ⟨j, hj⟩ := ht.writes
    rw [hs.mult k] at hj
    refine ⟨hs.conMult ht.uid, Or.inl ⟨.mult k p, l, ?_, ht.antes, ?_⟩⟩
    · simp only [credito, hcred, Option.map_some]
    · refine ⟨l.acredita (s.mult k).puntos, [.setJugada (s.mult k).jugadaId j],
        rfl, cuenta_acredita _ _, registro_conMult ht.registro, ?_, ?_, ?_⟩
      · rw [hws, hj]
        rfl
      · intro x l hmem
        rw [List.mem_singleton] at hmem
        exact absurd hmem (by simp)
      · simp only [Telefono.conMult, hj]
        exact BaseDatos.aplicar_setUser _ uid _
  · refine ⟨hs.conMult hlee.uid, Or.inr (Or.inl ⟨.mult k p, x, ?_, ?_,
      registro_conMult hlee.registro, ?_, ?_⟩)⟩
    · simp only [credito, hcred, Option.map_none]
    · simp only [lectura, hlect, Option.map_some]
    · rw [hws, hlee.writes]
      exact fun _ _ => List.not_mem_nil
    · simp only [Telefono.conMult, hlee.writes]
      rfl
  · refine ⟨hs.conMult hq.uid, Or.inr (Or.inr ⟨?_, ?_,
      registro_conMult_same hq.registro, ?_, ?_⟩)⟩
    · simp only [credito, hcred, Option.map_none]
    · simp only [lectura, hlect, Option.map_none]
    · rw [hws]
      exact hq.writes
    · exact guardado_congr (escribe_users hq.writes s.db uid)

theorem efecto_entrega (hs : Suyas uid s) {k : κ} {d : BaseDatos}
    (h : paso uid s (.entrega k d) = some s') :
    Suyas uid s' ∧ Efecto uid s (.entrega k d) s' := by
  simp only [paso] at h
  split at h
  · obtain rfl := Option.some.inj h
    have hsnap : (MultPlayer.snapshot [] d (s.mult k)).1.registro =
          (s.mult k).registro ∧
        (MultPlayer.snapshot [] d (s.mult k)).1.uid = (s.mult k).uid ∧
        (MultPlayer.snapshot [] d (s.mult k)).2 = [] := by
      rcases MultPlayer.snapshot_cases [] d (s.mult k) with
        hsame | ⟨-, -, j, m, -, hm, hrec⟩
      · rw [hsame]
        exact ⟨rfl, rfl, rfl⟩
      · rw [hm]
        exact ⟨MultPlayer.registro_ext hrec.userjUno hrec.userjDos,
          hrec.afin.uid, rfl⟩
    obtain ⟨hreg, huid, hws⟩ := hsnap
    refine ⟨hs.conMult huid, Or.inr (Or.inr ⟨rfl, rfl,
      registro_conMult_same hreg, ?_, ?_⟩)⟩
    · simp only [escrituras, hws]
      exact fun _ _ => List.not_mem_nil
    · simp only [Telefono.conMult, hws]
      rfl
  · exact absurd h (by simp)

theorem efecto_paso (hs : Suyas uid s) {a : Paso ι κ}
    (h : paso uid s a = some s') : Suyas uid s' ∧ Efecto uid s a s' := by
  cases a with
  | solo i e => exact efecto_solo hs h
  | mult k e => exact efecto_mult hs h
  | entrega k d => exact efecto_entrega hs h
  | mundo d =>
      simp only [paso] at h
      split at h
      next hd =>
        obtain rfl := Option.some.inj h
        exact ⟨⟨hs.solo, hs.mult⟩, Or.inr (Or.inr ⟨rfl, rfl, rfl,
          fun _ _ => List.not_mem_nil, guardado_congr hd⟩)⟩
      · exact absurd h (by simp)
  | online o =>
      obtain rfl := Option.some.inj h
      exact ⟨⟨hs.solo, hs.mult⟩, Or.inr (Or.inr ⟨rfl, rfl, rfl,
        fun _ _ => List.not_mem_nil, ponOnline_guardado s.db uid o⟩)⟩

end Effects

/-! ## The copies of the store -/

/-- Points and games of a loaded record, if it is the user's own. -/
def copia (uid : String) (o : Option Leido) : Option (ℤ × ℤ) :=
  o.bind fun l => if l.de = uid then some l.user.cuenta else none

theorem copia_some {uid : String} {l : Leido} (h : l.de = uid) :
    copia uid (some l) = some l.user.cuenta := by
  rw [copia, Option.bind_some, if_pos h]

/-- The store holds the user's points and games, and the sessions' copies of
them. -/
structure Reflejo (uid : String) (s : Telefono ι κ)
    (st : Copies.Store (Copia ι κ) (ℤ × ℤ)) : Prop where
  suyas : Suyas uid s
  value : st.value = guardado s.db uid
  copy : ∀ c, st.copy c = copia uid (registro s c)

theorem reflejo_inicio (uid : String) (juego : κ → String) (db : BaseDatos) :
    Reflejo uid (apagado uid juego db : Telefono ι κ)
      (Copies.Store.start (guardado db uid)) := by
  refine ⟨⟨fun _ => rfl, fun _ => rfl⟩, rfl, fun c => ?_⟩
  cases c with
  | solo i => rfl
  | mult k p =>
      cases p with
      | uno => rfl
      | dos => rfl

section Refinement

variable [DecidableEq ι] [DecidableEq κ] {uid : String}
  {s s' : Telefono ι κ} {st : Copies.Store (Copia ι κ) (ℤ × ℤ)} {a : Paso ι κ}

omit [DecidableEq ι] [DecidableEq κ] in
theorem operacion_of_credito {c : Copia ι κ} {l : Leido}
    (h : credito s a = some (c, l)) :
    operacion uid s a = some (.write c (suma (puntos s a))) := by
  rw [operacion, h]

omit [DecidableEq ι] [DecidableEq κ] in
theorem operacion_of_lectura {c : Copia ι κ} {x : String}
    (hc : credito s a = none) (h : lectura s a = some (c, x)) :
    operacion uid s a =
      if x = uid ∧ s.db.users uid ≠ none then some (.read c)
      else some (.drop c) := by
  rw [operacion, hc, h]

omit [DecidableEq ι] [DecidableEq κ] in
theorem operacion_none (hc : credito s a = none) (h : lectura s a = none) :
    operacion uid s a = none := by
  rw [operacion, hc, h]

/-- The copies after one of them has been replaced. -/
theorem Reflejo.copy_update {c : Copia ι κ} {o : Option Leido}
    (hs : Reflejo uid s st)
    (h : registro s' = Function.update (registro s) c o) (d : Copia ι κ) :
    Function.update st.copy c (copia uid o) d = copia uid (registro s' d) := by
  rw [h]
  by_cases hd : d = c
  · subst hd
    rw [Function.update_self, Function.update_self]
  · rw [Function.update_of_ne hd, Function.update_of_ne hd]
    exact hs.copy d

theorem Reflejo.acredita {c : Copia ι κ} {l : Leido} (hs : Reflejo uid s st)
    (hs' : Suyas uid s') (hl : l.de = uid) (h : Acredita uid s a c l s') :
    ∃ st', Copies.step st (.write c (suma (puntos s a))) = some st' ∧
      Reflejo uid s' st' := by
  obtain ⟨l', pre, hde, hcuenta, hreg, -, -, husers⟩ := h.nuevo
  have hcopy : st.copy c = some l.user.cuenta := by
    rw [hs.copy c, h.antes, copia_some hl]
  have hnew : copia uid (some l') = some (suma (puntos s a) l.user.cuenta) := by
    rw [copia_some (hde.trans hl), hcuenta]
  refine ⟨_, by rw [Copies.step, hcopy, Option.map_some], hs', ?_, fun d => ?_⟩
  · rw [guardado_of_some husers, hcuenta]
  · rw [← hs.copy_update hreg d, hnew]

theorem Reflejo.lee {c : Copia ι κ} {x : String} (hs : Reflejo uid s st)
    (hs' : Suyas uid s') (h : Lee uid s a c x s') :
    ∃ o st', operacion uid s a = some o ∧ Copies.step st o = some st' ∧
      Reflejo uid s' st' := by
  rw [operacion_of_lectura h.credito h.lectura]
  have hvalue : st.value = guardado s'.db uid := by
    rw [h.guardado, hs.value]
  by_cases hx : x = uid ∧ s.db.users uid ≠ none
  · obtain ⟨rfl, hdoc⟩ := hx
    obtain ⟨u, hu⟩ := Option.ne_none_iff_exists'.mp hdoc
    refine ⟨.read c, _, if_pos ⟨rfl, hdoc⟩, rfl, hs', hvalue, fun d => ?_⟩
    have hnew : copia x ((s.db.users x).map fun u => { de := x, user := u }) =
        some st.value := by
      rw [hu, hs.value, guardado_of_some hu]
      exact copia_some rfl
    rw [← hs.copy_update h.registro d, hnew]
  · refine ⟨.drop c, _, if_neg hx, rfl, hs', hvalue, fun d => ?_⟩
    have hnew : copia uid ((s.db.users x).map fun u => { de := x, user := u }) =
        none := by
      cases hu : s.db.users x with
      | none => rfl
      | some u =>
          refine if_neg fun (heq : x = uid) => hx ⟨heq, ?_⟩
          rw [← heq, hu]
          exact Option.some_ne_none u
    rw [← hs.copy_update h.registro d, hnew]

/-- The store follows the device. -/
theorem Reflejo.paso (hs : Reflejo uid s st) (hpropio : Propio uid s a)
    (h : Sesiones.paso uid s a = some s') (haber : List ℤ) :
    Reflejo uid s' (anota uid s a (st, haber)).1 ∧
      ∀ o ∈ operacion uid s a,
        Copies.step st o = some (anota uid s a (st, haber)).1 := by
  obtain ⟨hs', hefecto⟩ := efecto_paso hs.suyas h
  have hdone : ∀ {o st'}, operacion uid s a = some o →
      Copies.step st o = some st' → Reflejo uid s' st' →
      Reflejo uid s' (anota uid s a (st, haber)).1 ∧
        ∀ o ∈ operacion uid s a,
          Copies.step st o = some (anota uid s a (st, haber)).1 := by
    intro o st' ho hstep hst'
    have hanota : (anota uid s a (st, haber)).1 = st' := by
      simp only [anota, ho, Option.elim_some, hstep, Option.getD_some]
    rw [hanota]
    refine ⟨hst', fun o' ho' => ?_⟩
    rw [ho] at ho'
    rw [← Option.some.inj ho']
    exact hstep
  rcases hefecto with ⟨c, l, hacr⟩ | ⟨c, x, hlee⟩ | hresp
  · have hl : l.de = uid := hpropio (c, l) hacr.credito
    obtain ⟨st', hstep, hst'⟩ := hs.acredita hs' hl hacr
    exact hdone (operacion_of_credito hacr.credito) hstep hst'
  · obtain ⟨o, st', ho, hstep, hst'⟩ := hs.lee hs' hlee
    exact hdone ho hstep hst'
  · have hnone : operacion uid s a = none :=
      operacion_none hresp.credito hresp.lectura
    have hanota : (anota uid s a (st, haber)).1 = st := by
      simp only [anota, hnone, Option.elim_none]
    rw [hanota, hnone]
    refine ⟨⟨hs', ?_, fun c => ?_⟩, nofun⟩
    · rw [hresp.guardado]
      exact hs.value
    · rw [hresp.registro]
      exact hs.copy c

/-! ## Credits that add up -/

omit [DecidableEq ι] [DecidableEq κ] in
theorem suma_of_ne {v : ℤ × ℤ} {p : ℤ} {w : Escritura}
    (h : ∀ x l, w ≠ .setUser x l) : Suma uid v p w := by
  cases w with
  | setUser x l => exact absurd rfl (h x l)
  | _ => rintro r ⟨⟩

omit [DecidableEq ι] [DecidableEq κ] in
theorem any_guarda_eq_false {ws : List Escritura}
    (h : ∀ x l, .setUser x l ∉ ws) : ws.any (guarda uid) = false := by
  rw [List.any_eq_false]
  intro w hw
  cases w with
  | setUser x l => exact absurd hw (h x l)
  | _ => simp [guarda]

omit [DecidableEq ι] [DecidableEq κ] in
theorem counted_operacion {o : Copies.Op (Copia ι κ) (ℤ × ℤ)}
    (h : o ∈ operacion uid s a) : Copies.Counted Prod.snd o := by
  cases o with
  | read c => trivial
  | drop c => trivial
  | write c f =>
      have hf : f = suma (puntos s a) := by
        unfold operacion at h
        split at h
        · exact (Copies.Op.write.inj (Option.some.inj h)).2.symm
        · split at h
          · split at h
            · exact absurd (Option.some.inj h) (by simp)
            · exact absurd (Option.some.inj h) (by simp)
          · exact absurd h (by simp)
      rw [hf]
      exact fun _ => rfl

/-- A step stores what it should if and only if its write is exact. -/
theorem Reflejo.aditivo_iff (hs : Reflejo uid s st) (hpropio : Propio uid s a)
    (h : Sesiones.paso uid s a = some s') :
    Aditivo uid s a ↔ ∀ o ∈ operacion uid s a, Copies.Exact st o := by
  have hnada : (∀ x l, .setUser x l ∉ escrituras s a) → Aditivo uid s a := by
    intro hws w hw
    refine suma_of_ne ?_
    rintro x l rfl
    exact hws x l hw
  rcases (efecto_paso hs.suyas h).2 with ⟨c, l, hacr⟩ | ⟨c, x, hlee⟩ | hresp
  · obtain ⟨l', pre, hde, hcuenta, -, hws, hpre, -⟩ := hacr.nuevo
    have hl : l.de = uid := hpropio (c, l) hacr.credito
    have hcopy : st.copy c = some l.user.cuenta := by
      rw [hs.copy c, hacr.antes, copia_some hl]
    rw [operacion_of_credito hacr.credito]
    constructor
    · intro had o ho
      rw [← Option.some.inj ho]
      intro v hv
      have hlast := had (.setUser uid l') (by rw [hws]; simp)
      rw [hcopy] at hv
      rw [← Option.some.inj hv, ← hcuenta, hs.value]
      exact hlast _ rfl rfl
    · intro hexact w hw
      rw [hws, List.mem_append, List.mem_singleton] at hw
      rcases hw with hw | rfl
      · refine suma_of_ne ?_
        rintro x k rfl
        exact hpre x k hw
      · rintro r ⟨⟩ -
        rw [hcuenta, ← hs.value]
        exact hexact _ rfl _ hcopy
  · refine iff_of_true (hnada hlee.escrituras) fun o ho => ?_
    rw [operacion_of_lectura hlee.credito hlee.lectura] at ho
    split at ho
    · rw [← Option.some.inj ho]
      trivial
    · rw [← Option.some.inj ho]
      trivial
  · refine iff_of_true (hnada hresp.escrituras) ?_
    rw [operacion_none hresp.credito hresp.lectura]
    exact nofun

/-- The record has grown from `v₀` by the credits stored so far, and the copies
are known. -/
structure Cuadra (uid : String) (v₀ : ℤ × ℤ)
    (p : Telefono ι κ × Historia ι κ) : Prop where
  reflejo : Reflejo uid p.1 p.2.1
  tracked : Copies.Tracked Prod.snd p.2.1
  haber : p.2.1.value = (v₀.1 + p.2.2.sum, v₀.2 + p.2.2.length)

omit [DecidableEq ι] [DecidableEq κ] in
theorem cuadra_inicio (uid : String) (juego : κ → String) (db : BaseDatos) :
    Cuadra uid (guardado db uid) (inicio uid juego db : Telefono ι κ × _) := by
  refine ⟨reflejo_inicio uid juego db, Copies.tracked_start _ _, ?_⟩
  simp [inicio, Copies.Store.start]

variable {v₀ : ℤ × ℤ} {p q : Telefono ι κ × Historia ι κ}

/-- A step stores what it should if and only if its copy is up to date. -/
theorem Cuadra.aditivo_iff (hp : Cuadra uid v₀ p) (hpropio : Propio uid p.1 a)
    (h : pasoAnotado uid p a = some q) :
    Aditivo uid p.1 a ↔ Reciente uid p a := by
  have hpaso := (Runs.ghost_eq_some h).1
  rw [hp.reflejo.aditivo_iff hpropio hpaso]
  have hstep := (hp.reflejo.paso hpropio hpaso p.2.2).2
  constructor
  · intro hexact o ho
    exact (hp.tracked.exact_iff (counted_operacion ho) (hstep o ho)).mp
      (hexact o ho)
  · intro hfresh o ho
    exact (hp.tracked.exact_iff (counted_operacion ho) (hstep o ho)).mpr
      (hfresh o ho)

/-- What a step with an up-to-date copy makes of the points and games. -/
theorem Cuadra.value (hp : Cuadra uid v₀ p) (hpropio : Propio uid p.1 a)
    (hrec : Reciente uid p a) (h : pasoAnotado uid p a = some q) :
    q.2.1.value = (v₀.1 + q.2.2.sum, v₀.2 + q.2.2.length) := by
  obtain ⟨hpaso, hq⟩ := Runs.ghost_eq_some h
  obtain ⟨hreflejo, hstep⟩ := hp.reflejo.paso hpropio hpaso p.2.2
  rcases (efecto_paso hp.reflejo.suyas hpaso).2 with
    ⟨c, l, hacr⟩ | ⟨c, x, hlee⟩ | hresp
  · obtain ⟨l', pre, -, -, -, hws, -, -⟩ := hacr.nuevo
    have hop : operacion uid p.1 a = some (.write c (suma (puntos p.1 a))) :=
      operacion_of_credito hacr.credito
    have hthis := hstep _ hop
    have hexact := (hp.tracked.exact_iff (counted_operacion hop) hthis).mpr
      (hrec _ hop)
    have hvalue := Copies.value_of_exact hexact hthis
    have hany : (escrituras p.1 a).any (guarda uid) = true := by
      rw [hws, List.any_append]
      simp [guarda]
    have hhaber : q.2.2 = p.2.2 ++ [puntos p.1 a] := by
      rw [hq]
      simp only [anota, hany, if_true]
    rw [hhaber, hq, hvalue, hp.haber]
    simp only [Copies.Op.effect, suma, List.sum_append, List.sum_singleton,
      List.length_append, List.length_singleton, Prod.mk.injEq]
    constructor
    · omega
    · omega
  · have hhaber : q.2.2 = p.2.2 := by
      rw [hq]
      simp only [anota, any_guarda_eq_false hlee.escrituras, Bool.false_eq_true,
        if_false]
    rw [hhaber, hq, hreflejo.value, hlee.guardado, ← hp.reflejo.value, hp.haber]
  · have hhaber : q.2.2 = p.2.2 := by
      rw [hq]
      simp only [anota, any_guarda_eq_false hresp.escrituras,
        Bool.false_eq_true, if_false]
    rw [hhaber, hq, hreflejo.value, hresp.guardado, ← hp.reflejo.value,
      hp.haber]

/-- Steps with an up-to-date copy keep the account. -/
theorem Cuadra.step (hp : Cuadra uid v₀ p) (hpropio : Propio uid p.1 a)
    (hrec : Reciente uid p a) (h : pasoAnotado uid p a = some q) :
    Cuadra uid v₀ q := by
  obtain ⟨hpaso, hq⟩ := Runs.ghost_eq_some h
  obtain ⟨hreflejo, hstep⟩ := hp.reflejo.paso hpropio hpaso p.2.2
  have hstore : q.2.1 = (anota uid p.1 a (p.2.1, p.2.2)).1 := by rw [hq]
  refine ⟨hstore ▸ hreflejo, ?_, hp.value hpropio hrec h⟩
  rw [hstore]
  cases hop : operacion uid p.1 a with
  | none =>
      simp only [anota, hop, Option.elim_none]
      exact hp.tracked
  | some o =>
      exact hp.tracked.step (counted_operacion hop) (hrec o hop) (hstep o hop)

end Refinement

section Runs

variable [DecidableEq ι] [DecidableEq κ]

/-- In a run whose sessions credit the user's own record, every credit adds its
score to what is stored if and only if no session credits a copy that another
one has outdated; and then the record has gained all scores and all games. -/
theorem creditos_aditivos (uid : String) (juego : κ → String) (db : BaseDatos)
    {acts : List (Paso ι κ)} {p : Telefono ι κ × Historia ι κ}
    (hrun : Runs.run (pasoAnotado uid) (inicio uid juego db) acts = some p)
    (hpropio : Runs.Along (pasoAnotado uid) (fun q a => Propio uid q.1 a)
      (inicio uid juego db) acts) :
    (Runs.Along (pasoAnotado uid) (fun q a => Aditivo uid q.1 a)
        (inicio uid juego db) acts ↔
      Runs.Along (pasoAnotado uid) (Reciente uid)
        (inicio uid juego db) acts) ∧
    (Runs.Along (pasoAnotado uid) (Reciente uid)
        (inicio uid juego db) acts →
      guardado p.1.db uid =
        ((guardado db uid).1 + p.2.2.sum,
          (guardado db uid).2 + p.2.2.length)) := by
  have hinit : Cuadra uid (guardado db uid)
      (inicio uid juego db : Telefono ι κ × Historia ι κ) :=
    cuadra_inicio uid juego db
  constructor
  · exact Runs.Along.iff_of_invariant
      (fun _ _ _ hq hprop hrec hstep => hq.step hprop hrec hstep)
      (fun _ _ _ hq hprop hstep => hq.aditivo_iff hprop hstep)
      hinit hpropio hrun
  · intro hrec
    have hfin : Cuadra uid (guardado db uid) p :=
      Runs.invariant
        (fun _ _ _ hq hok hstep => Cuadra.step hq hok.1 hok.2 hstep)
        hinit (hpropio.and hrec) hrun
    rw [← hfin.reflejo.value, hfin.haber]

end Runs

/-- The match `g` of `a` and `b` with three points for `a`, who has ten points
from four games. -/
def baseAna : BaseDatos :=
  ((BaseDatos.vacia.conJugada "g" (some
    { Jugada.nueva "a" "" with jugadorDosID := "b", puntosjugadorUnoID := 3
    })).conUser "a" (User.nuevo "Ana" 10 4 "")).conUser "b"
    (User.nuevo "Blas" 0 0 "")

/-- A solo game loads the record, `a` taps once and leaves the screen. -/
def empiezaSolo : List (Paso Unit Unit) :=
  [.solo () .onCreate, .solo () .onResume, .solo () .user,
    .solo () (.prepara (sale 0)), .solo () (.clicFotoPerfil (sale 0)), .solo () .onPause,
    .solo () .onStop]

/-- A match loads the record. -/
def empiezaMatch : List (Paso Unit Unit) :=
  [.mult () .onStart, .entrega () baseAna, .mult () .userUno,
    .mult () .userDos]

/-- The solo game comes back and its countdown expires. -/
def acabaSolo : List (Paso Unit Unit) :=
  [.solo () .onResume, .solo () (.onFinish 1)]

/-- The solo game ends before the match loads the record. -/
theorem creditos_aditivos_ana :
    ∃ p, Runs.run (pasoAnotado "a") (inicio "a" (fun _ => "g") baseAna)
        (empiezaSolo ++ acabaSolo ++ empiezaMatch ++ [.mult () .onStop]) =
          some p ∧
      guardado p.1.db "a" = (10 + p.2.2.sum, (4 : ℤ) + p.2.2.length) := by
  obtain ⟨p, hrun⟩ := Option.isSome_iff_exists.mp
    (show (Runs.run (pasoAnotado "a") (inicio "a" (fun _ => "g") baseAna)
      (empiezaSolo ++ acabaSolo ++ empiezaMatch ++
        [.mult () .onStop])).isSome = true by decide)
  exact ⟨p, hrun,
    (creditos_aditivos "a" _ baseAna hrun (by decide)).2 (by decide)⟩

/-- The match is left while the solo game is back on the screen, which then
stores its old copy: of ten points and the scores three and one, eleven points
remain. -/
theorem credito_perdido :
    ¬Runs.Along (pasoAnotado "a") (fun q a => Aditivo "a" q.1 a)
        (inicio "a" (fun _ => "g") baseAna)
        (empiezaSolo ++ empiezaMatch ++
          [.solo () .onResume, .mult () .onStop, .solo () (.onFinish 1)]) ∧
      ∃ p, Runs.run (pasoAnotado "a") (inicio "a" (fun _ => "g") baseAna)
          (empiezaSolo ++ empiezaMatch ++
            [.solo () .onResume, .mult () .onStop, .solo () (.onFinish 1)]) =
            some p ∧
        p.2.2 = [3, 1] ∧ guardado baseAna "a" = (10, 4) ∧
        guardado p.1.db "a" = (11, 5) := by
  refine ⟨by decide, ?_⟩
  have hvalor : (Runs.run (pasoAnotado "a")
      (inicio "a" (fun _ => "g") baseAna)
      (empiezaSolo ++ empiezaMatch ++
        [.solo () .onResume, .mult () .onStop, .solo () (.onFinish 1)])).map
        (fun p => (p.2.2, guardado p.1.db "a")) = some ([3, 1], (11, 5)) := by
    decide
  obtain ⟨p, hrun, h⟩ := Option.map_eq_some_iff.mp hvalor
  obtain ⟨hhaber, hguardado⟩ := Prod.mk.inj h
  exact ⟨p, hrun, hhaber, by decide, hguardado⟩

end Tocate.Sesiones
