import Tocate.FindGame.Device

/-!
# Cancelled games

A creator who leaves deletes his game.  An `update` of a game that is gone
fails, but two writers store a game whole, whatever has become of it: the claim
of a free search, and the match screen.  A deleted game stays away in every run
in which neither of them is behind the times, and a join that has been granted
is told before the game goes.
-/

namespace Tocate

/-- The game has been created and is gone. -/
def BaseDatos.Cancelada (db : BaseDatos) (g : String) : Prop :=
  db.creador g ≠ none ∧ db.jugadas g = none

instance (db : BaseDatos) (g : String) : Decidable (db.Cancelada g) :=
  inferInstanceAs (Decidable (db.creador g ≠ none ∧ db.jugadas g = none))

/-- A cancelled game comes back with a whole document only. -/
theorem BaseDatos.cancelada_aplicar_iff {db : BaseDatos} {g : String}
    (h : db.Cancelada g) (w : Escritura) :
    (db.aplicar w).1.Cancelada g ↔ w.repone ≠ some g := by
  obtain ⟨hcreador, hfuera⟩ := h
  constructor
  · rintro ⟨-, hnone⟩ hw
    cases w with
    | setJugada g' j =>
        obtain rfl := Option.some.inj hw
        exact absurd ((db.conJugada_self g' (some j)).symm.trans hnone) nofun
    | reclamar g' j =>
        obtain rfl := Option.some.inj hw
        exact absurd ((db.conJugada_self g' (some j)).symm.trans hnone) nofun
    | addJugada g' j => cases hw
    | unirse g' u => cases hw
    | rechazar g' u => cases hw
    | deleteJugada g' => cases hw
    | setUser x l => cases hw
  · intro hw
    refine ⟨?_, aplicar_ausente hfuera hcreador ?_ ?_⟩
    · obtain ⟨c, hc⟩ := Option.ne_none_iff_exists'.mp hcreador
      rw [aplicar_creador_some hc]
      exact Option.some_ne_none c
    · rintro j rfl
      exact hw rfl
    · rintro j rfl
      exact hw rfl

/-- A game is cancelled by its deletion. -/
theorem BaseDatos.cancelada_of_aplicar {db : BaseDatos} {w : Escritura}
    {g : String} (hantes : ¬db.Cancelada g)
    (h : (db.aplicar w).1.Cancelada g) :
    w = .deleteJugada g ∧ db.jugadas g ≠ none := by
  obtain ⟨hcreador, hfuera⟩ := h
  rcases db.aplicar_creador w g with hsame | ⟨-, j, -, -, hj⟩
  · rw [hsame] at hcreador
    have hesta : db.jugadas g ≠ none := fun hnone => hantes ⟨hcreador, hnone⟩
    refine ⟨?_, hesta⟩
    by_contra hw
    exact aplicar_presente hesta hw hfuera
  · exact absurd (hj.symm.trans hfuera) nofun

/-- A join that succeeds leaves the game on the server. -/
theorem BaseDatos.aplicar_une {db : BaseDatos} {w : Escritura} {g : String}
    (hune : w.une = some g) (hexito : (db.aplicar w).2 = true) :
    (db.aplicar w).1.jugadas g ≠ none := by
  cases w with
  | reclamar g' j =>
      obtain rfl := Option.some.inj hune
      simp [aplicar]
  | unirse g' u =>
      obtain rfl := Option.some.inj hune
      cases hg : db.jugadas g' with
      | none => simp [aplicar, update_none hg] at hexito
      | some j => simp [aplicar, update_some hg]
  | addJugada g' j => cases hune
  | setJugada g' j => cases hune
  | rechazar g' u => cases hune
  | deleteJugada g' => cases hune
  | setUser x l => cases hune

namespace Sala

open Cloud

variable {ι : Type*} [DecidableEq ι]

/-- "Game `g` is cancelled", as an attribute of the database. -/
def cancelada (g : String) :
    Attribute (programa : Program BaseDatos Escritura Aparato Suceso) Unit where
  ok := fun _ => True
  of := fun db => if db.Cancelada g then some () else none
  keeps := fun _ w => w.repone ≠ some g
  kept_iff := by
    rintro db w ⟨⟩ - hdb
    have hcan : db.Cancelada g := by
      by_contra hno
      rw [if_neg hno] at hdb
      cases hdb
    simp [programa, BaseDatos.cancelada_aplicar_iff hcan]

theorem cancelada_of {g : String} {db : BaseDatos} :
    (cancelada g).of db = some () ↔ db.Cancelada g := by
  simp [cancelada]

theorem cancelada_of_none {g : String} {db : BaseDatos} :
    (cancelada g).of db = none ↔ ¬db.Cancelada g := by
  simp [cancelada]

/-- The game that the event makes the device store whole: the one that a free
search claims, or the one on the match screen, once its copy has arrived. -/
def guardada (a : Aparato) : Suceso → Option String
  | .busca e => if esReclamo e then a.busca.pide e else none
  | .juega e =>
      if e.esCallado then none else a.juega.jugada.map fun _ => a.juega.jugadaId
  | .cancelarJugada _ => none

/-- No whole document of `g` is in flight. -/
def SinReponer (s : Estado ι) (g : String) : Prop :=
  ∀ k, ∀ v ∈ s.outbox k, v.repone ≠ some g

/-- No device waits to be told that it has joined `g`. -/
def SinEntrar (s : Estado ι) (g : String) : Prop :=
  ∀ k, (s.client k).busca.caida = false →
    ∀ p ∈ s.acks k, p.2 = true → p.1.une ≠ some g

/-- Nobody stores a cancelled game whole; and when the deletion of a game
arrives, no whole document of it is in flight and no join of it still to be
confirmed. -/
structure Avisado (s : Estado ι) (a : Paso ι) : Prop where
  event : ∀ x ∈ a.event?, ∀ g ∈ guardada (s.client x.1) x.2,
    ¬s.server.Cancelada g
  arrive : ∀ i ∈ a.arrive?, ∀ w ∈ (s.outbox i).head?, ∀ g ∈ w.borrada,
    s.server.jugadas g ≠ none → SinReponer s g ∧ SinEntrar s g

/-- A device that is told that it has joined a game, and starts it, finds it
there. -/
def EntraViva (s : Estado ι) (a : Paso ι) : Prop :=
  ∀ i ∈ a.confirm?, (s.client i).busca.caida = false →
    ∀ p ∈ (s.acks i).head?, p.2 = true →
      ∀ g ∈ p.1.une, ¬s.server.Cancelada g

section Decidable

variable [Fintype ι]

instance (s : Estado ι) (g : String) : Decidable (SinReponer s g) :=
  inferInstanceAs (Decidable (∀ k, ∀ v ∈ s.outbox k, v.repone ≠ some g))

instance (s : Estado ι) (g : String) : Decidable (SinEntrar s g) :=
  inferInstanceAs (Decidable (∀ k, (s.client k).busca.caida = false →
    ∀ p ∈ s.acks k, p.2 = true → p.1.une ≠ some g))

instance (s : Estado ι) (a : Paso ι) : Decidable (Avisado s a) :=
  decidable_of_iff (_ ∧ _)
    ⟨fun h => ⟨h.1, h.2⟩, fun h => ⟨h.event, h.arrive⟩⟩

end Decidable

/-- From any state on in which a game is cancelled it stays so, and nobody is
let into it any more. -/
structure Duradera (s : Estado ι) (acts : List (Paso ι)) : Prop where
  sigue : ∀ xs ys zs s₁ s₂ g, acts = xs ++ (ys ++ zs) →
    Runs.run programa.step s xs = some s₁ →
    Runs.run programa.step s₁ ys = some s₂ →
    s₁.server.Cancelada g → s₂.server.Cancelada g
  entra : Runs.Along programa.step EntraViva s acts

/-! ## What a device stores whole -/

section Stored

variable {db vista : BaseDatos} {a a' : Aparato} {ws : List Escritura}
  {g : String}

theorem guardada_busca {e : FindGame.Suceso}
    (h : react db vista a (.busca e) = some (a', ws)) :
    (∃ w ∈ ws, w.repone = some g) ↔ guardada a (.busca e) = some g := by
  obtain ⟨-, hbusca, -⟩ := react_busca h
  obtain ⟨-, t, ht, hcierra⟩ := FindGame.react_eq_some hbusca
  obtain ⟨-, rfl⟩ := Prod.mk.inj hcierra
  constructor
  · rintro ⟨w, hw, hg⟩
    have hemite := (FindGame.atiende_writes ht).1 w hw
    obtain ⟨hsienta, nuevas, rfl⟩ := hemite.repone hg
    simp only [guardada, esReclamo, if_true]
    exact hemite.pide hsienta
  · intro hg
    simp only [guardada] at hg
    split at hg
    next hreclamo =>
      cases e with
      | onComplete nuevas =>
          simp only [FindGame.atiende] at ht
          simp only [FindGame.pide] at hg
          split at ht
          next docs hespera =>
            obtain ⟨-, ⟨⟩⟩ := Option.ite_none_right_eq_some.mp ht
            obtain ⟨ids, -, hids⟩ := FindGame.onComplete_eq docs nuevas
              { a.busca with espera := .nada }
            rw [hids]
            simp only [hespera] at hg
            obtain ⟨p, hp, rfl⟩ := Option.map_eq_some_iff.mp hg
            refine ⟨FindGame.reclama a.busca.uid p, ?_, rfl⟩
            simp [hp]
          · cases ht
      | onCreate tipo => cases hreclamo
      | linkReception deepLink => cases hreclamo
      | responde docs => cases hreclamo
      | noResponde => cases hreclamo
      | emite n => cases hreclamo
      | onEvent => cases hreclamo
      | run => cases hreclamo
      | onStart => cases hreclamo
      | onStop => cases hreclamo
      | onBackPressed => cases hreclamo
    · cases hg

theorem guardada_juega {e : MultPlayer.Suceso}
    (h : react db vista a (.juega e) = some (a', ws)) :
    (∃ w ∈ ws, w.repone = some g) ↔ guardada a (.juega e) = some g := by
  obtain ⟨hmult, -⟩ := react_juega h
  have hguarda : ∀ j, MultPlayer.Guarda a.juega j ws →
      ((∃ w ∈ ws, w.repone = some g) ↔ a.juega.jugadaId = g) := by
    intro j hj
    constructor
    · rintro ⟨w, hw, hg⟩
      rcases hj.todas w hw with rfl | ⟨l, rfl⟩
      · exact Option.some.inj hg
      · cases hg
    · rintro rfl
      exact ⟨_, hj.jugada, rfl⟩
  have hsi : ∀ k, e.esCallado = false → a.juega.jugada = some k →
      (guardada a (.juega e) = some g ↔ a.juega.jugadaId = g) := by
    intro k he hk
    simp [guardada, he, hk]
  rcases MultPlayer.react_efecto hmult with
    ⟨imagen, aleatorio, j, rfl, ht⟩ | ⟨hgame, j, hj, ht⟩ | ⟨hcalla, hq⟩
  · rw [hguarda _ ht.guarda, hsi j rfl ht.antes]
  · obtain ⟨k, hk, -⟩ := a.juega.alLlamar_jugada e hj
    have he : e.esCallado = false := by
      by_contra hsilent
      rw [MultPlayer.Suceso.not_esGameover (by simpa using hsilent)] at hgame
      cases hgame
    rw [hguarda _ ht.guarda, hsi k he hk]
  · rw [hq.writes]
    refine iff_of_false (by simp) ?_
    rcases hcalla with he | hnone
    · simp [guardada, he]
    · simp [guardada, hnone]

/-- An event stores whole the game that `guardada` names, and no other. -/
theorem guardada_iff {e : Suceso} (h : react db vista a e = some (a', ws)) :
    (∃ w ∈ ws, w.repone = some g) ↔ guardada a e = some g := by
  cases e with
  | busca e => exact guardada_busca h
  | juega e => exact guardada_juega h
  | cancelarJugada g' =>
      obtain ⟨-, rfl, -⟩ := react_cancelarJugada h
      simp [guardada, Escritura.repone]

end Stored

section Steps

variable {s s' : Estado ι} {a : Paso ι} {g : String}

/-- What the attributes ask of a step. -/
theorem respeta_iff (hs : Creadas s) (hstep : programa.step s a = some s') :
    (∀ g, (cancelada g).Respects s a) ↔
      (∀ x ∈ a.event?, ∀ g ∈ guardada (s.client x.1) x.2,
        ¬s.server.Cancelada g) ∧
      ∀ i ∈ a.arrive?, ∀ w ∈ (s.outbox i).head?, ∀ g ∈ w.borrada,
        s.server.jugadas g ≠ none → SinReponer s g := by
  cases a with
  | event i e =>
      obtain ⟨⟨a', ws⟩, hreact, rfl⟩ := Program.step_event hstep
      have hissues := Program.issues_event (P := programa) hreact
      constructor
      · refine fun h => ⟨?_, nofun⟩
        rintro x ⟨⟩ g hg hcan
        obtain ⟨w, hw, hrepone⟩ := (guardada_iff hreact).mpr hg
        refine (h g).issue () (cancelada_of.mpr hcan) w ?_ hrepone
        rw [hissues]
        exact hw
      · intro h g
        refine .of_issue nofun ?_
        rintro ⟨⟩ hcan w hw hrepone
        rw [hissues] at hw
        exact h.1 (i, e) rfl g ((guardada_iff hreact).mp ⟨w, hw, hrepone⟩)
          (cancelada_of.mp hcan)
  | arrive i =>
      obtain ⟨w, ws, hbox, rfl⟩ := Program.step_arrive hstep
      simp only [Attribute.respects_arrive hbox]
      constructor
      · refine fun h => ⟨nofun, ?_⟩
        rintro n ⟨⟩ v hv g hg hesta k u hu
        rw [hbox] at hv
        cases hv
        obtain rfl := Escritura.borrada_eq hg
        have hantes : ¬s.server.Cancelada g := fun hcan => hesta hcan.2
        obtain ⟨j, hj⟩ := Option.ne_none_iff_exists'.mp hesta
        have hluego : (s.server.aplicar (.deleteJugada g)).1.Cancelada g :=
          ⟨hs.server g j hj, s.server.conJugada_self g none⟩
        by_cases hk : k = i
        · subst hk
          rw [hbox] at hu
          rcases List.mem_cons.mp hu with rfl | hmem
          · nofun
          · refine h g () (cancelada_of_none.mpr hantes)
              (cancelada_of.mpr hluego) k u ?_
            rw [Program.receive_outbox_self]
            exact hmem
        · refine h g () (cancelada_of_none.mpr hantes)
            (cancelada_of.mpr hluego) k u ?_
          rw [Program.receive_outbox_ne _ _ hk]
          exact hu
      · rintro h g ⟨⟩ hantes hluego k v hv
        obtain ⟨rfl, hesta⟩ := BaseDatos.cancelada_of_aplicar
          (cancelada_of_none.mp hantes) (cancelada_of.mp hluego)
        have hhead : .deleteJugada g ∈ (s.outbox i).head? := by
          rw [hbox]
          rfl
        exact h.2 i rfl _ hhead g rfl hesta k v
          (Program.mem_receive_outbox hbox hv)
  | confirm i =>
      exact iff_of_true (fun g => .of_quiet nofun (issues_confirm s i))
        ⟨nofun, nofun⟩
  | deliver i =>
      exact iff_of_true (fun g => .of_quiet nofun (issues_deliver s i))
        ⟨nofun, nofun⟩
  | skip i =>
      exact iff_of_true (fun g => .of_quiet nofun rfl) ⟨nofun, nofun⟩

/-- What holds along a run of warned devices. -/
structure Cerrada (s : Estado ι) : Prop where
  creadas : Creadas s
  segura : ∀ g, (cancelada g).Safe s
  entrar : ∀ g, s.server.Cancelada g → SinEntrar s g

theorem Avisado.respeta (hs : Creadas s) (h : Avisado s a)
    (hstep : programa.step s a = some s') (g : String) :
    (cancelada g).Respects s a := by
  refine (respeta_iff hs hstep).mpr ⟨h.event, ?_⟩ g
  exact fun i hi w hw g hg hesta => (h.arrive i hi w hw g hg hesta).1

theorem Cerrada.step (hs : Cerrada s) (hok : Avisado s a)
    (hstep : programa.step s a = some s') :
    Cerrada s' ∧ ∀ g, (cancelada g).Lasts s s' := by
  have hsegura : ∀ g, (cancelada g).Safe s' ∧ (cancelada g).Lasts s s' :=
    fun g => (hs.segura g).step (I := fun _ => True) (fun _ _ _ _ _ => trivial)
      trivial (hok.respeta hs.creadas hstep g) hstep
  refine ⟨⟨hs.creadas.step hstep, fun g => (hsegura g).1, ?_⟩,
    fun g => (hsegura g).2⟩
  intro g hcan k hviva p hp hexito hune
  obtain ⟨hantes, hacks⟩ := step_acks hstep k
  rcases hacks p hp with hold | ⟨ws, rfl, hbox, hok'⟩
  · by_cases hya : s.server.Cancelada g
    · exact hs.entrar g hya k (hantes hviva) p hold hexito hune
    · -- the game has just been deleted
      rcases Program.step_flight hstep with ⟨i, w, ws, rfl, hbox, rfl⟩ |
        ⟨hserver, -⟩
      · obtain ⟨rfl, hesta⟩ := BaseDatos.cancelada_of_aplicar hya hcan
        have hhead : .deleteJugada g ∈ (s.outbox i).head? := by
          rw [hbox]
          rfl
        exact (hok.arrive i rfl _ hhead g rfl hesta).2 k (hantes hviva) p hold
          hexito hune
      · rw [hserver] at hcan
        exact hya hcan
  · obtain ⟨w, ws', hbox', rfl⟩ := Program.step_arrive hstep
    obtain ⟨rfl, -⟩ := List.cons_eq_cons.mp (hbox.symm.trans hbox')
    rw [hok'] at hexito
    exact BaseDatos.aplicar_une hune hexito hcan.2

omit [DecidableEq ι] in
theorem Cerrada.entraViva (hs : Cerrada s) (a : Paso ι) : EntraViva s a := by
  intro i _ hviva p hp hexito g hune hcan
  exact hs.entrar g hcan i hviva p (List.mem_of_mem_head? hp) hexito hune

end Steps

/-! ## Runs -/

section Run

variable {s t : Estado ι} {acts : List (Paso ι)}

omit [DecidableEq ι] in
theorem cerrada_inicial (uid juego : ι → String)
    (users : String → Option User) : Cerrada (inicial uid juego users) where
  creadas := copias_inicial _ uid juego users
  segura := fun _ _ _ _ _ hw => absurd hw List.not_mem_nil
  entrar := fun _ _ _ _ _ hp => absurd hp List.not_mem_nil

theorem lasts_cancelada_iff {a : Paso ι} {s' : Estado ι} {g : String}
    (hstep : programa.step s a = some s') :
    (cancelada g).Lasts s s' ↔
      (s.server.Cancelada g → s'.server.Cancelada g) := by
  rw [Attribute.lasts_iff _ hstep]
  constructor
  · exact fun h hcan => cancelada_of.mp (h () (cancelada_of.mpr hcan))
  · rintro h ⟨⟩ hcan
    exact cancelada_of.mpr (h (cancelada_of.mp hcan))

/-- What is asked of the stretches of a run is asked of its steps. -/
theorem duradera_iff :
    Duradera s acts ↔
      Runs.Along programa.step (fun s a => ∀ s', programa.step s a = some s' →
        ∀ g, s.server.Cancelada g → s'.server.Cancelada g) s acts ∧
      Runs.Along programa.step EntraViva s acts := by
  rw [Runs.along_iff_stretch programa.step (fun _ _ h => h)
    (fun _ _ _ h h' g hg => h' g (h g hg))]
  constructor
  · intro h
    refine ⟨fun xs ys zs s₁ s₂ hacts h₁ h₂ g => ?_, h.entra⟩
    exact h.sigue xs ys zs s₁ s₂ g hacts h₁ h₂
  · rintro ⟨hsigue, hentra⟩
    refine ⟨fun xs ys zs s₁ s₂ g hacts h₁ h₂ => ?_, hentra⟩
    exact hsigue xs ys zs s₁ s₂ hacts h₁ h₂ g

/-- Warned devices: what is cancelled stays cancelled. -/
theorem Cerrada.duradera (hs : Cerrada s)
    (hok : Runs.Along programa.step Avisado s acts) : Duradera s acts := by
  have hstep : ∀ (s : Estado ι) a s', Cerrada s → Avisado s a →
      programa.step s a = some s' → Cerrada s' :=
    fun _ _ _ hs hok hstep => (hs.step hok hstep).1
  rw [duradera_iff]
  constructor
  · refine Runs.Along.of_invariant hstep (fun s a hs hok s' hstep g => ?_) hs hok
    exact (lasts_cancelada_iff hstep).mp ((hs.step hok hstep).2 g)
  · exact Runs.Along.of_invariant hstep (fun s a hs _ => hs.entraViva a) hs hok

/-- Whoever waits to be let into a cancelled game is let in at some time. -/
theorem not_duradera_of_espera
    (hrun : Runs.run programa.step s acts = some t)
    (hacks : ∀ i, t.acks i = []) (hviva : ∀ i, (t.client i).busca.caida = false)
    {g : String} (hcan : s.server.Cancelada g) (hno : ¬SinEntrar s g) :
    ¬Duradera s acts := by
  rw [duradera_iff]
  simp only [SinEntrar, not_forall, not_not] at hno
  obtain ⟨k, -, p, hp, hexito, hune⟩ := hno
  rintro ⟨hsigue, hentra⟩
  induction acts generalizing s with
  | nil =>
      cases hrun
      rw [hacks k] at hp
      cases hp
  | cons a acts ih =>
      -- a device that is not down at the end has never been down
      have hviva' := (Runs.Along.of_end
        (fun _ _ _ hstep => (step_acks hstep k).1) hrun (hviva k)).1
      obtain ⟨s', hstep, hrest⟩ := Runs.run_cons_eq_some hrun
      rcases mem_acks_step hstep hp with hold | ⟨rfl, hhead⟩
      · exact ih hrest (hsigue.1 s' hstep g hcan) hold (hsigue.2 s' hstep)
          (hentra.2 s' hstep)
      · exact hentra.1 k rfl hviva' p hhead hexito g hune hcan

/-- Where nothing is left to arrive or to confirm and no app is down, the
devices have been warned all along. -/
theorem avisado_of_duradera (hs : Creadas s)
    (hrun : Runs.run programa.step s acts = some t)
    (hend : ∀ i, t.outbox i = [] ∧ t.acks i = [] ∧
      (t.client i).busca.caida = false)
    (h : Duradera s acts) : Runs.Along programa.step Avisado s acts := by
  have hrespeta : Runs.Along programa.step
      (fun s a => ∀ g, (cancelada g).Respects s a) s acts := by
    rw [Runs.along_forall_iff]
    intro g
    refine Attribute.respects_of_lasts (I := fun _ => True)
      (fun _ _ _ _ _ => trivial) (fun _ _ _ _ _ => trivial) trivial hrun
      (fun i => (hend i).1) ?_
    exact (duradera_iff.mp h).1.mono fun s a hs s' hstep =>
      (lasts_cancelada_iff hstep).mpr (hs s' hstep g)
  rw [duradera_iff] at h
  obtain ⟨hsigue, hentra⟩ := h
  induction acts generalizing s with
  | nil => trivial
  | cons a acts ih =>
      obtain ⟨s', hstep, hrest⟩ := Runs.run_cons_eq_some hrun
      have hcierra := (respeta_iff hs hstep).mp hrespeta.1
      refine ⟨?_, fun t' ht' => ?_⟩
      · refine ⟨hcierra.1, fun i hi w hw g hg hesta => ?_⟩
        refine ⟨hcierra.2 i hi w hw g hg hesta, ?_⟩
        obtain rfl := Action.arrive?_eq_some hi
        by_contra hno
        obtain rfl := Escritura.borrada_eq hg
        obtain ⟨j, hj⟩ := Option.ne_none_iff_exists'.mp hesta
        obtain ⟨v, ws, hbox, hs'⟩ := Program.step_arrive hstep
        rw [hbox] at hw
        cases hw
        have hcan : s'.server.Cancelada g := by
          rw [hs']
          exact ⟨hs.server g j hj, s.server.conJugada_self g none⟩
        have hno' : ¬SinEntrar s' g := by
          simp only [SinEntrar, not_forall, not_not] at hno ⊢
          obtain ⟨k, hk, p, hp, hrest⟩ := hno
          refine ⟨k, ?_, p, ?_, hrest⟩
          · rw [hs']
            exact hk
          · exact (mem_acks_step hstep hp).resolve_right nofun
        exact not_duradera_of_espera hrest (fun i => (hend i).2.1)
          (fun i => (hend i).2.2) hcan hno' (duradera_iff.mpr
            ⟨hsigue.2 s' hstep, hentra.2 s' hstep⟩)
      · rw [hstep] at ht'
        cases ht'
        exact ih (hs.step hstep) hrest (hrespeta.2 s' hstep)
          (hsigue.2 s' hstep) (hentra.2 s' hstep)

/-- A cancelled game stays cancelled in every run of warned devices; and in a
run that ends with nothing to arrive, nothing to confirm and no app down, it
does so only then. -/
theorem cancelada_duradera {uid juego : ι → String}
    {users : String → Option User}
    (hrun : Runs.run programa.step (inicial uid juego users) acts = some t) :
    (Runs.Along programa.step Avisado (inicial uid juego users) acts →
      Duradera (inicial uid juego users) acts) ∧
    ((∀ i, t.outbox i = [] ∧ t.acks i = [] ∧
        (t.client i).busca.caida = false) →
      Duradera (inicial uid juego users) acts →
      Runs.Along programa.step Avisado (inicial uid juego users) acts) := by
  have hinit := cerrada_inicial uid juego users
  constructor
  · exact hinit.duradera
  · exact avisado_of_duradera hinit.creadas hrun

end Run

/-- `b` finds the game of `a`, who leaves. -/
def seVaAna : List (Paso (Trio)) :=
  creaAna ++ encuentra .blas ++ [.event .ana (.busca .onStop), .arrive .ana]

/-- `c` comes too late for the game, by an invitation. -/
theorem cancelada_duradera_tarde :
    ∃ s, Runs.run programa.step (inicial deTres (fun _ => "g") fun _ => none)
        (seVaAna ++ [.event .carla (.busca (.onCreate (.pinvDirecta "g"))),
          .arrive .carla, .confirm .carla]) = some s ∧
      Duradera (inicial deTres (fun _ => "g") fun _ => none)
        (seVaAna ++ [.event .carla (.busca (.onCreate (.pinvDirecta "g"))),
          .arrive .carla, .confirm .carla]) := by
  obtain ⟨s, hrun⟩ := Option.isSome_iff_exists.mp
    (show (Runs.run programa.step
      (inicial deTres (fun _ => "g") fun _ => none)
        (seVaAna ++ [.event .carla (.busca (.onCreate (.pinvDirecta "g"))),
          .arrive .carla, .confirm .carla])).isSome = true by decide)
  exact ⟨s, hrun, (cancelada_duradera hrun).1 (by decide)⟩

/-- `b` deals with the reply after the game has gone: the claim brings it back,
and `b` starts a match that nobody waits for. -/
theorem cancelada_revive :
    ¬Duradera (inicial deTres (fun _ => "g") fun _ => none)
      (seVaAna ++ (reclamaG .blas ++ [.confirm .blas])) := by
  intro h
  have hfuera : (Runs.run programa.step
      (inicial deTres (fun _ => "g") fun _ => none) seVaAna).map
        (fun s => decide (s.server.Cancelada "g")) = some true := by decide
  have hvuelve : (Runs.run programa.step
      (inicial deTres (fun _ => "g") fun _ => none)
        (seVaAna ++ (reclamaG .blas ++ [.confirm .blas]))).map
        (fun t => (decide (t.server.Cancelada "g"),
          (t.client .blas).busca.empezadas)) = some (false, ["g"]) := by decide
  obtain ⟨s, hs, hcan⟩ := Option.map_eq_some_iff.mp hfuera
  rw [Runs.run_append, hs, Option.bind_some] at hvuelve
  obtain ⟨t, ht, hviva⟩ := Option.map_eq_some_iff.mp hvuelve
  have hsigue := h.sigue seVaAna (reclamaG .blas ++ [.confirm .blas]) [] s t "g"
    (by rw [List.append_nil]) hs ht (of_decide_eq_true hcan)
  exact of_decide_eq_false (Prod.mk.inj hviva).1 hsigue

end Sala

end Tocate
