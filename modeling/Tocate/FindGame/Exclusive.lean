import Tocate.FindGame.Search
import Mathlib.Data.Fintype.Basic

/-!
# One seat, one player

The invariant of all devices together, and what follows from it: the second
player is never the creator and never replaced, a request that succeeds has
found the game free, and only one device besides the creator starts the match.
-/

namespace Tocate.Sala

open Cloud

variable {ι : Type*} [DecidableEq ι]

/-! ## When the seat is asked for -/

/-- No request for the seat of `g` is in flight. -/
def SinPeticiones (s : Estado ι) (g : String) : Prop :=
  ∀ n, ∀ v ∈ s.outbox n, v.sienta ≠ some g

/-- Device `i` may ask for the seat of `g`: no other request is in flight, and
the seat is free in a game of somebody else; or the game has been deleted, and
no write that stores it again is in flight. -/
def Disponible (s : Estado ι) (i : ι) (g : String) : Prop :=
  SinPeticiones s g ∧
    (∀ j ∈ s.server.jugadas g,
      j.jugadorDosID = "" ∧ j.jugadorUnoID ≠ (s.client i).busca.uid) ∧
    (s.server.jugadas g = none →
      ∀ n, ∀ v ∈ s.outbox n, v.repone ≠ some g)

/-- A free search may claim `g`: the game is there and is not being deleted. -/
def Reclamable (s : Estado ι) (g : String) : Prop :=
  s.server.jugadas g ≠ none ∧ ∀ n, ∀ v ∈ s.outbox n, v ≠ .deleteJugada g

/-- The reply of a free search is dealt with. -/
def esReclamo : FindGame.Suceso → Bool
  | .onComplete _ => true
  | _ => false

/-- What the event on the search screen of device `i` asks for is available,
and what it deletes is not being claimed by another device. -/
def BuscaBien (s : Estado ι) (i : ι) (e : FindGame.Suceso) : Prop :=
  (∀ g ∈ (s.client i).busca.pide e,
    Disponible s i g ∧ (esReclamo e = true → Reclamable s g)) ∧
  ∀ g ∈ (s.client i).busca.borra e,
    ∀ n, n ≠ i → ∀ v ∈ s.outbox n, v.reclamada ≠ some g

/-- The match screen of device `i` writes only with the seat taken in its copy
and no request for it in flight. -/
def JuegaBien (s : Estado ι) (i : ι) (e : MultPlayer.Suceso) : Prop :=
  e.esCallado = false → ∀ j ∈ (s.client i).juega.jugada,
    j.jugadorDosID ≠ "" ∧ SinPeticiones s (s.client i).juega.jugadaId

def EventoBien (s : Estado ι) (i : ι) : Suceso → Prop
  | .busca e => BuscaBien s i e
  | .juega e => JuegaBien s i e
  | .cancelarJugada g => Disponible s i g

def Ordenado (s : Estado ι) (a : Paso ι) : Prop :=
  ∀ x ∈ a.event?, EventoBien s x.1 x.2

section Decidable

variable [Fintype ι]

instance (s : Estado ι) (g : String) : Decidable (SinPeticiones s g) :=
  inferInstanceAs (Decidable (∀ n, ∀ v ∈ s.outbox n, v.sienta ≠ some g))

instance (s : Estado ι) (i : ι) (g : String) : Decidable (Disponible s i g) :=
  inferInstanceAs (Decidable (SinPeticiones s g ∧
    (∀ j ∈ s.server.jugadas g,
      j.jugadorDosID = "" ∧ j.jugadorUnoID ≠ (s.client i).busca.uid) ∧
    (s.server.jugadas g = none →
      ∀ n, ∀ v ∈ s.outbox n, v.repone ≠ some g)))

instance (s : Estado ι) (g : String) : Decidable (Reclamable s g) :=
  inferInstanceAs (Decidable (s.server.jugadas g ≠ none ∧
    ∀ n, ∀ v ∈ s.outbox n, v ≠ .deleteJugada g))

instance (s : Estado ι) (i : ι) (e : FindGame.Suceso) :
    Decidable (BuscaBien s i e) :=
  inferInstanceAs (Decidable ((∀ g ∈ (s.client i).busca.pide e,
    Disponible s i g ∧ (esReclamo e = true → Reclamable s g)) ∧
    ∀ g ∈ (s.client i).busca.borra e,
      ∀ n, n ≠ i → ∀ v ∈ s.outbox n, v.reclamada ≠ some g))

instance (s : Estado ι) (i : ι) (e : MultPlayer.Suceso) :
    Decidable (JuegaBien s i e) :=
  inferInstanceAs (Decidable (e.esCallado = false →
    ∀ j ∈ (s.client i).juega.jugada,
      j.jugadorDosID ≠ "" ∧ SinPeticiones s (s.client i).juega.jugadaId))

instance (s : Estado ι) (i : ι) : (e : Suceso) → Decidable (EventoBien s i e)
  | .busca e => inferInstanceAs (Decidable (BuscaBien s i e))
  | .juega e => inferInstanceAs (Decidable (JuegaBien s i e))
  | .cancelarJugada g => inferInstanceAs (Decidable (Disponible s i g))

instance (s : Estado ι) (a : Paso ι) : Decidable (Ordenado s a) :=
  inferInstanceAs (Decidable (∀ x ∈ a.event?, EventoBien s x.1 x.2))

end Decidable

/-! ## The invariant -/

/-- The unconfirmed writes of a device, the oldest first. -/
def pendientes (s : Estado ι) (i : ι) : List Escritura :=
  (s.acks i).map Prod.fst ++ s.outbox i

/-- What the order in one queue has to be. -/
def Antes (v w : Escritura) : Prop :=
  ∀ g, w.sienta = some g → v.sienta ≠ some g ∧
    (w.reclamada = some g → v ≠ .deleteJugada g)

/-- A request under way meets a free game that nobody else deletes before, or
comes too late for a game that nobody stores again. -/
def Acepta (uid : ι → String) (k : Mesas ι) (s : Estado ι) (i : ι)
    (w : Escritura) (g : String) : Prop :=
  (Encuentra uid k s.server i w g ∧
    (w.reclamada = some g →
      ∀ n, n ≠ i → ∀ v ∈ s.outbox n, v ≠ .deleteJugada g)) ∨
  (Tarde k s.server w g ∧ ∀ n, ∀ v ∈ s.outbox n, v.repone ≠ some g)

structure Orden (uid : ι → String) (k : Mesas ι) (s : Estado ι) : Prop where
  server : Servida uid k s.server
  outbox : ∀ i, ∀ w ∈ s.outbox i, EnVuelo uid k i w
  acepta : ∀ i, ∀ w ∈ s.outbox i, ∀ g, w.sienta = some g →
    Acepta uid k s i w g
  cola : ∀ i, (s.outbox i).Pairwise Antes
  solo : ∀ i n, i ≠ n → ∀ v ∈ s.outbox i, ∀ w ∈ s.outbox n, ∀ g,
    v.sienta = some g → w.sienta ≠ some g
  acks : ∀ i, ∀ p ∈ s.acks i, Confirmada uid k i p
  inbox : ∀ i, ∀ db ∈ s.inbox i, ∀ g j, db.jugadas g = some j →
    Copia uid k g j
  busca : ∀ i, Buscador uid k i (s.client i).busca (pendientes s i)
  juega : ∀ i j, (s.client i).juega.jugada = some j →
    Copia uid k (s.client i).juega.jugadaId j

/-- What a device may turn into and write. -/
structure Mueve (uid : ι → String) (k : Mesas ι) (s : Estado ι) (i : ι)
    (r : Aparato × List Escritura) : Prop where
  envio : ∀ w ∈ r.2, EnVuelo uid k i w
  peticiones : ∀ w ∈ r.2, ∀ g, w.sienta = some g → SinPeticiones s g
  acepta : ∀ w ∈ r.2, ∀ g, w.sienta = some g →
    (Encuentra uid k s.server i w g ∧
      (w.reclamada = some g → ∀ n, ∀ v ∈ s.outbox n, v ≠ .deleteJugada g)) ∨
    (Tarde k s.server w g ∧ (∀ n, ∀ v ∈ s.outbox n, v.repone ≠ some g) ∧
      ∀ v ∈ r.2, v.repone ≠ some g)
  repone : ∀ w ∈ r.2, ∀ g, w.repone = some g → SinPeticiones s g
  borra : ∀ w ∈ r.2, ∀ g, w = .deleteJugada g →
    ∀ n, n ≠ i → ∀ v ∈ s.outbox n, v.reclamada ≠ some g
  orden : r.2.Pairwise Antes
  busca : Buscador uid k i r.1.busca (pendientes s i ++ r.2)
  juega : ∀ j, r.1.juega.jugada = some j →
    Copia uid k r.1.juega.jugadaId j

section Steps

variable {uid : ι → String} {k : Mesas ι} {s : Estado ι} {i : ι}

theorem pendientes_settle_self (r : Aparato × List Escritura) :
    pendientes (programa.settle s i r) i = pendientes s i ++ r.2 := by
  unfold pendientes
  rw [Program.settle_acks, Program.settle_outbox_self, List.append_assoc]

theorem pendientes_settle_ne (r : Aparato × List Escritura) {n : ι}
    (hn : n ≠ i) : pendientes (programa.settle s i r) n = pendientes s n := by
  unfold pendientes
  rw [Program.settle_acks, Program.settle_outbox_ne r hn]

/-- A device moves. -/
theorem Orden.mueve (h : Orden uid k s) {r : Aparato × List Escritura}
    (hm : Mueve uid k s i r) : Orden uid k (programa.settle s i r) := by
  refine ⟨h.server, ?_, ?_, ?_, ?_, h.acks, ?_, ?_, ?_⟩
  · intro n w hw
    rcases Program.mem_settle_outbox hw with hold | ⟨rfl, hnew⟩
    · exact h.outbox n w hold
    · exact hm.envio w hnew
  · intro n w hw g hg
    rcases Program.mem_settle_outbox hw with hold | ⟨rfl, hnew⟩
    · rcases h.acepta n w hold g hg with ⟨henc, hborra⟩ | ⟨htarde, hrepone⟩
      · refine Or.inl ⟨henc, fun hrec n' hn' v hv hdel => ?_⟩
        rcases Program.mem_settle_outbox hv with hvold | ⟨rfl, hvnew⟩
        · exact hborra hrec n' hn' v hvold hdel
        · exact hm.borra v hvnew g hdel n hn'.symm w hold hrec
      · refine Or.inr ⟨htarde, fun n' v hv hrep => ?_⟩
        rcases Program.mem_settle_outbox hv with hvold | ⟨rfl, hvnew⟩
        · exact hrepone n' v hvold hrep
        · exact hm.repone v hvnew g hrep n w hold hg
    · rcases hm.acepta w hnew g hg with ⟨henc, hborra⟩ |
        ⟨htarde, hrepone, hpropia⟩
      · refine Or.inl ⟨henc, fun hrec n' hn' v hv hdel => ?_⟩
        rcases Program.mem_settle_outbox hv with hvold | ⟨heq, -⟩
        · exact hborra hrec n' v hvold hdel
        · exact hn' heq
      · refine Or.inr ⟨htarde, fun n' v hv hrep => ?_⟩
        rcases Program.mem_settle_outbox hv with hvold | ⟨-, hvnew⟩
        · exact hrepone n' v hvold hrep
        · exact hpropia v hvnew hrep
  · intro n
    by_cases hn : n = i
    · subst hn
      rw [Program.settle_outbox_self]
      refine List.pairwise_append.mpr ⟨h.cola n, hm.orden, ?_⟩
      intro v hv w hw g hg
      refine ⟨hm.peticiones w hw g hg n v hv, fun hrec => ?_⟩
      rcases hm.acepta w hw g hg with ⟨-, hborra⟩ | ⟨htarde, -⟩
      · exact hborra hrec n v hv
      · exact absurd hrec (htarde.2.2)
    · rw [Program.settle_outbox_ne r hn]
      exact h.cola n
  · intro n n' hne v hv w hw g hv' hw'
    rcases Program.mem_settle_outbox hv with hvold | ⟨rfl, hvnew⟩
    · rcases Program.mem_settle_outbox hw with hwold | ⟨rfl, hwnew⟩
      · exact h.solo n n' hne v hvold w hwold g hv' hw'
      · exact hm.peticiones w hwnew g hw' n v hvold hv'
    · rcases Program.mem_settle_outbox hw with hwold | ⟨rfl, hwnew⟩
      · exact hm.peticiones v hvnew g hv' n' w hwold hw'
      · exact hne rfl
  · intro n db hdb g j hj
    rcases Program.mem_settle_inbox hdb with hold | ⟨-, -, rfl⟩
    · exact h.inbox n db hold g j hj
    · exact h.server.copia hj
  · intro n
    by_cases hn : n = i
    · subst hn
      rw [Program.settle_client_self, pendientes_settle_self]
      exact hm.busca
    · rw [Program.settle_client_ne r hn, pendientes_settle_ne r hn]
      exact h.busca n
  · intro n j hj
    by_cases hn : n = i
    · subst hn
      rw [Program.settle_client_self] at hj ⊢
      exact hm.juega j hj
    · rw [Program.settle_client_ne r hn] at hj ⊢
      exact h.juega n j hj

omit [DecidableEq ι] in
/-- A device moves without writing. -/
theorem Mueve.callado {a : Aparato}
    (hbusca : Buscador uid k i a.busca (pendientes s i))
    (hjuega : ∀ j, a.juega.jugada = some j → Copia uid k a.juega.jugadaId j) :
    Mueve uid k s i (a, []) where
  envio := List.forall_mem_nil _
  peticiones := List.forall_mem_nil _
  acepta := List.forall_mem_nil _
  repone := List.forall_mem_nil _
  borra := List.forall_mem_nil _
  orden := List.Pairwise.nil
  busca := hbusca.sinEscribir
  juega := hjuega

omit [DecidableEq ι] in
/-- A callback or a snapshot is taken off its queue. -/
theorem Orden.saca (h : Orden uid k s) {acks : ι → List (Escritura × Bool)}
    {inbox : ι → List BaseDatos} (hacks : ∀ n, acks n ⊆ s.acks n)
    (hinbox : ∀ n, inbox n ⊆ s.inbox n) :
    Orden uid k { s with acks := acks, inbox := inbox } where
  server := h.server
  outbox := h.outbox
  acepta := h.acepta
  cola := h.cola
  solo := h.solo
  acks := fun n p hp => h.acks n p (hacks n hp)
  inbox := fun n db hdb => h.inbox n db (hinbox n hdb)
  busca := fun n => (h.busca n).subset
    (List.append_subset.mpr
      ⟨fun _ hw => List.mem_append_left _ (List.map_subset _ (hacks n) hw),
        List.subset_append_right _ _⟩)
  juega := h.juega

theorem pendientes_receive {w : Escritura} {ws : List Escritura}
    (hbox : s.outbox i = w :: ws) (n : ι) :
    pendientes (programa.receive s i w ws) n = pendientes s n := by
  unfold pendientes
  by_cases hn : n = i
  · subst hn
    rw [Program.receive_outbox_self, hbox]
    simp [Program.receive]
  · rw [Program.receive_outbox_ne w ws hn]
    simp [Program.receive, hn]

/-- A write arrives; one that takes a seat has found it free. -/
theorem Orden.recibe {w : Escritura} {ws : List Escritura}
    (h : Orden uid k s) (hbox : s.outbox i = w :: ws) :
    ∃ k', k.Crece k' ∧ Orden uid k' (programa.receive s i w ws) ∧
      ∀ g, w.sienta = some g → (s.server.aplicar w).2 = true →
        ∃ j, s.server.jugadas g = some j ∧ Libre j := by
  have hmem : w ∈ s.outbox i := mem_of_eq_cons hbox
  have hviejo : ∀ n, ∀ v ∈ (programa.receive s i w ws).outbox n,
      v ∈ s.outbox n := fun n v hv => Program.mem_receive_outbox hbox hv
  have hcola := List.pairwise_cons.mp (hbox ▸ h.cola i)
  -- no other request for the same seat is in flight
  have hdistinta : ∀ n, ∀ v ∈ (programa.receive s i w ws).outbox n, ∀ g,
      v.sienta = some g → w.sienta ≠ some g := by
    intro n v hv g hg
    by_cases hn : n = i
    · subst hn
      rw [Program.receive_outbox_self] at hv
      exact (hcola.1 v hv g hg).1
    · exact h.solo n i hn v (hviejo n v hv) w hmem g hg
  have hasiento : ∀ g, w.sienta = some g →
      Encuentra uid k s.server i w g ∨ Tarde k s.server w g := fun g hg =>
    (h.acepta i w hmem g hg).imp And.left And.left
  obtain ⟨k', hle, hserver, hotros, hconf, hlibre⟩ :=
    h.server.aplicar (h.outbox i w hmem) hasiento
  refine ⟨k', hle, ⟨hserver, ?_, ?_, ?_, ?_, ?_, ?_, ?_, ?_⟩, hlibre⟩
  · exact fun n v hv => (h.outbox n v (hviejo n v hv)).mono hle
  · intro n v hv g hg
    have hw := hdistinta n v hv g hg
    rcases h.acepta n v (hviejo n v hv) g hg with
      ⟨⟨hno, ⟨c, hc, hne⟩, hesta⟩, hborra⟩ | ⟨⟨hfuera, hcreador, hrec⟩, hrepone⟩
    · left
      refine ⟨⟨?_, ⟨c, hle.creador g c hc, hne⟩, fun hrec => ?_⟩,
        fun hrec n' hn' v' hv' => hborra hrec n' hn' v' (hviejo n' v' hv')⟩
      · rw [hotros g hw]
        exact hno
      · refine BaseDatos.aplicar_presente (hesta hrec) ?_
        by_cases hn : n = i
        · subst hn
          rw [Program.receive_outbox_self] at hv
          exact (hcola.1 v hv g hg).2 hrec
        · exact hborra hrec i (Ne.symm hn) w hmem
    · right
      have hrepw := hrepone i w hmem
      refine ⟨⟨?_, ?_, hrec⟩, fun n' v' hv' => hrepone n' v' (hviejo n' v' hv')⟩
      · refine BaseDatos.aplicar_ausente hfuera ?_ ?_ ?_
        · rw [h.server.creador]
          exact hcreador
        · rintro j rfl
          exact hrepw rfl
        · rintro j rfl
          exact hrepw rfl
      · obtain ⟨c, hc⟩ := Option.ne_none_iff_exists'.mp hcreador
        rw [hle.creador g c hc]
        simp
  · intro n
    by_cases hn : n = i
    · subst hn
      rw [Program.receive_outbox_self]
      exact hcola.2
    · rw [Program.receive_outbox_ne w ws hn]
      exact h.cola n
  · intro n n' hne v hv v' hv'
    exact h.solo n n' hne v (hviejo n v hv) v' (hviejo n' v' hv')
  · intro n p hp
    rcases Program.mem_receive_acks hp with hold | ⟨rfl, rfl⟩
    · exact (h.acks n p hold).mono hle
    · exact hconf
  · intro n db hdb g j hj
    rcases Program.mem_receive_inbox hdb with hold | ⟨-, rfl⟩
    · exact (h.inbox n db hold g j hj).mono hle
    · exact hserver.copia hj
  · intro n
    rw [pendientes_receive hbox, Program.receive_client]
    exact (h.busca n).mono hle
  · exact fun n j hj => (h.juega n j hj).mono hle

/-- What a search screen asks for is named by an invitation or a link, or was
found by a free search. -/
theorem nombrada_of_pide {f : FindGame} {e : FindGame.Suceso} {g : String}
    (h : f.pide e = some g) :
    nombrada e = some g ∨ esReclamo e = true := by
  cases e with
  | onCreate tipo =>
      cases tipo with
      | pinvDirecta partidaID => exact Or.inl h
      | pLibre => exact absurd h (by simp [FindGame.pide])
      | cearDynamickLink id => exact absurd h (by simp [FindGame.pide])
      | Invita inv id => exact absurd h (by simp [FindGame.pide])
      | null => exact absurd h (by simp [FindGame.pide])
  | linkReception deepLink => exact Or.inl h
  | onComplete nuevas => exact Or.inr rfl
  | responde docs => exact absurd h (by simp [FindGame.pide])
  | noResponde => exact absurd h (by simp [FindGame.pide])
  | emite n => exact absurd h (by simp [FindGame.pide])
  | onEvent => exact absurd h (by simp [FindGame.pide])
  | run => exact absurd h (by simp [FindGame.pide])
  | onStart => exact absurd h (by simp [FindGame.pide])
  | onStop => exact absurd h (by simp [FindGame.pide])
  | onBackPressed => exact absurd h (by simp [FindGame.pide])

omit [DecidableEq ι] in
/-- A request for an available seat meets a free game, or comes too late. -/
theorem Disponible.acepta (h : Orden uid k s) (huid : ∀ n, uid n ≠ "")
    {g : String} (hd : Disponible s i g) (hcreador : k.creador g ≠ none)
    {w : Escritura} (hrec : w.reclamada = some g → Reclamable s g) :
    (Encuentra uid k s.server i w g ∧
      (w.reclamada = some g → ∀ n, ∀ v ∈ s.outbox n, v ≠ .deleteJugada g)) ∨
    (Tarde k s.server w g ∧ ∀ n, ∀ v ∈ s.outbox n, v.repone ≠ some g) := by
  obtain ⟨-, hlibre, hfuera⟩ := hd
  cases hj : s.server.jugadas g with
  | none =>
      exact Or.inr ⟨⟨hj, hcreador, fun hw => (hrec hw).1 hj⟩, hfuera hj⟩
  | some j =>
      obtain ⟨hdos, huno⟩ := hlibre j hj
      have hno : k.asiento g = none := by
        by_contra hsi
        obtain ⟨n, hn⟩ := Option.ne_none_iff_exists'.mp hsi
        exact huid n ((h.server.dos g j n hj hn).symm.trans hdos)
      rw [(h.busca i).usuario] at huno
      exact Or.inl ⟨⟨hno, ⟨j.jugadorUnoID, h.server.uno g j hj, huno⟩,
        fun hw => (hrec hw).1⟩, fun hw => (hrec hw).2⟩

omit [DecidableEq ι] in
/-- An event on the search screen. -/
theorem Orden.alBuscar (h : Orden uid k s) (huid : ∀ n, uid n ≠ "")
    {e : FindGame.Suceso} {a' : Aparato} {ws : List Escritura}
    (hok : BuscaBien s i e)
    (hreact : react s.server (programa.view s i) (s.client i) (.busca e) =
      some (a', ws)) : Mueve uid k s i (a', ws) := by
  obtain ⟨hnombrada, hbusca, hjuega⟩ := react_busca hreact
  obtain ⟨-, t, ht, hcierra⟩ := FindGame.react_eq_some hbusca
  obtain ⟨-, rfl⟩ := Prod.mk.inj hcierra
  obtain ⟨hemite, horden⟩ := FindGame.atiende_writes ht
  obtain ⟨hpide, hborra⟩ := hok
  have husuario := (h.busca i).usuario
  have hdocs := (h.busca i).docs
  have hpeticion : ∀ w ∈ t.writes, ∀ g, w.sienta = some g →
      Disponible s i g := fun w hw g hg => (hpide g ((hemite w hw).pide hg)).1
  have hreclamable : ∀ w ∈ t.writes, ∀ g, w.repone = some g →
      Reclamable s g := by
    intro w hw g hg
    obtain ⟨hsienta, nuevas, rfl⟩ := (hemite w hw).repone hg
    exact (hpide g ((hemite w hw).pide hsienta)).2 rfl
  refine ⟨?_, fun w hw g hg => (hpeticion w hw g hg).1, ?_, ?_, ?_, ?_,
    (h.busca i).react h.server.uno hbusca, ?_⟩
  · intro w hw
    rcases hemite w hw with ⟨id, inv⟩ | ⟨g, -⟩ |
      ⟨docs, p, nuevas, -, hespera, hp⟩ | ⟨g, -⟩
    · exact ⟨inv, by rw [husuario]⟩
    · exact husuario
    · exact ⟨hdocs docs hespera p (List.mem_of_find?_eq_some hp), husuario⟩
    · trivial
  · intro w hw g hg
    have hcreador : k.creador g ≠ none := by
      rcases nombrada_of_pide ((hemite w hw).pide hg) with hnom | hreclamo
      · rw [← h.server.creador]
        exact hnombrada g hnom
      · obtain ⟨j, hj⟩ := Option.ne_none_iff_exists'.mp
          ((hpide g ((hemite w hw).pide hg)).2 hreclamo).1
        rw [h.server.uno g j hj]
        simp
    have hrec : w.reclamada = some g → Reclamable s g := fun hrec =>
      hreclamable w hw g (Escritura.repone_of_reclamada hrec)
    refine ((hpeticion w hw g hg).acepta h huid hcreador hrec).imp id ?_
    rintro ⟨htarde, hrepone⟩
    exact ⟨htarde, hrepone, fun v hv hrep =>
      (hreclamable v hv g hrep).1 htarde.1⟩
  · intro w hw g hg
    exact (hpeticion w hw g ((hemite w hw).repone hg).1).1
  · rintro w hw g rfl
    exact hborra g (hemite _ hw).borra_eq
  · refine horden.imp ?_
    rintro v w ⟨id, j, rfl⟩ g hg
    exact ⟨nofun, fun _ => nofun⟩
  · rw [hjuega]
    exact h.juega i

omit [DecidableEq ι] in
/-- A match screen whose copy has the seat taken stores its game, with the
players of that copy, while nobody asks for the seat. -/
theorem Mueve.guarda (h : Orden uid k s) {j j' : Jugada} {a' : Aparato}
    {ws : List Escritura} (hj : (s.client i).juega.jugada = some j)
    (hok : j.jugadorDosID ≠ "" ∧ SinPeticiones s (s.client i).juega.jugadaId)
    (huno : j'.jugadorUnoID = j.jugadorUnoID)
    (hdos : j'.jugadorDosID = j.jugadorDosID)
    (hbusca : a'.busca = (s.client i).busca)
    (hid : a'.juega.jugadaId = (s.client i).juega.jugadaId)
    (hj' : a'.juega.jugada = some j')
    (hws : MultPlayer.Guarda (s.client i).juega j' ws) :
    Mueve uid k s i (a', ws) := by
  obtain ⟨hocupada, hsin⟩ := hok
  obtain ⟨hcreador, hasiento⟩ := h.juega i j hj
  obtain ⟨n, hn, hn'⟩ := hasiento.resolve_left hocupada
  have hno : ∀ w ∈ ws, ∀ g, w.sienta ≠ some g :=
    hws.forall_mem (fun _ => nofun) fun _ _ => nofun
  refine ⟨?_, ?_, ?_, ?_, ?_, ?_, ?_, ?_⟩
  · exact hws.forall_mem ⟨huno ▸ hcreador, n, hn, hdos.trans hn'⟩
      fun _ => trivial
  · exact fun w hw g hg => absurd hg (hno w hw g)
  · exact fun w hw g hg => absurd hg (hno w hw g)
  · refine hws.forall_mem (fun g hg => ?_) fun _ _ => nofun
    rw [← Option.some.inj hg]
    exact hsin
  · exact hws.forall_mem (fun _ => nofun) fun _ _ => nofun
  · exact List.pairwise_of_forall_mem_list fun v _ w hw g hg =>
      absurd hg (hno w hw g)
  · rw [hbusca]
    exact (h.busca i).otras (hws.forall_mem rfl fun _ => rfl)
      (hws.forall_mem rfl fun _ => rfl)
  · intro i' hi'
    rw [← Option.some.inj (hj'.symm.trans hi'), hid]
    exact ⟨huno ▸ hcreador, Or.inr ⟨n, hn, hdos.trans hn'⟩⟩

omit [DecidableEq ι] in
/-- An event on the match screen. -/
theorem Orden.alJugar (h : Orden uid k s) {e : MultPlayer.Suceso}
    {a' : Aparato} {ws : List Escritura} (hok : JuegaBien s i e)
    (hreact : react s.server (programa.view s i) (s.client i) (.juega e) =
      some (a', ws)) : Mueve uid k s i (a', ws) := by
  obtain ⟨hmult, hbusca⟩ := react_juega hreact
  rcases MultPlayer.react_efecto hmult with ⟨imagen, aleatorio, j, rfl, ht⟩ |
    ⟨hgame, j, hj, ht⟩ | ⟨-, hq⟩
  · refine Mueve.guarda h ht.antes (hok rfl j ht.antes) ?_ ?_ hbusca
      ht.jugadaId ht.jugada ht.guarda
    · rfl
    · rfl
  · obtain ⟨j₀, hj₀, hforma⟩ := MultPlayer.alLlamar_jugada _ e hj
    have he : e.esCallado = false := by
      by_contra hno
      have hcalla : e.esCallado = true := by simpa using hno
      rw [MultPlayer.Suceso.not_esGameover hcalla] at hgame
      exact absurd hgame (by simp)
    have hasientos : (MultPlayer.coronada j).jugadorUnoID = j₀.jugadorUnoID ∧
        (MultPlayer.coronada j).jugadorDosID = j₀.jugadorDosID := by
      obtain rfl | ⟨-, rfl⟩ := hforma
      · exact ⟨rfl, rfl⟩
      · exact ⟨rfl, rfl⟩
    refine Mueve.guarda h hj₀ (hok he j₀ hj₀) hasientos.1 hasientos.2 hbusca
      ?_ ht.jugada ht.guarda
    rw [ht.base.afin.jugadaId, MultPlayer.alLlamar_jugadaId]
  · rw [hq.writes]
    refine Mueve.callado ?_ ?_
    · rw [hbusca]
      exact h.busca i
    · rw [hq.jugada, hq.jugadaId]
      exact h.juega i

omit [DecidableEq ι] in
/-- An invitation is refused. -/
theorem Orden.alCancelar (h : Orden uid k s) (huid : ∀ n, uid n ≠ "")
    {g : String} {a' : Aparato} {ws : List Escritura}
    (hok : Disponible s i g)
    (hreact : react s.server (programa.view s i) (s.client i)
      (.cancelarJugada g) = some (a', ws)) : Mueve uid k s i (a', ws) := by
  obtain ⟨rfl, rfl, c, hc, -⟩ := react_cancelarJugada hreact
  have hcreador : k.creador g ≠ none := by
    rw [← h.server.creador, hc]
    simp
  refine ⟨?_, ?_, ?_, ?_, ?_, List.pairwise_singleton _ _,
    (h.busca i).otras ?_ ?_, h.juega i⟩
  · intro w hw
    rw [List.mem_singleton.mp hw]
    exact (h.busca i).usuario
  · intro w hw g' hg'
    rw [List.mem_singleton.mp hw] at hg'
    rw [← Option.some.inj hg']
    exact hok.1
  · intro w hw g' hg'
    rw [List.mem_singleton.mp hw] at hg' ⊢
    obtain rfl := Option.some.inj hg'
    refine (hok.acepta h huid hcreador ?_).imp id ?_
    · intro hrec
      exact absurd hrec (by simp [Escritura.reclamada])
    · rintro ⟨htarde, hrepone⟩
      refine ⟨htarde, hrepone, fun v hv => ?_⟩
      rw [List.mem_singleton.mp hv]
      simp [Escritura.repone]
  · intro w hw g' hg'
    rw [List.mem_singleton.mp hw] at hg'
    exact absurd hg' (by simp [Escritura.repone])
  · rintro w hw g' rfl
    exact absurd (List.mem_singleton.mp hw) (by simp)
  · intro w hw
    rw [List.mem_singleton.mp hw]
    rfl
  · intro w hw
    rw [List.mem_singleton.mp hw]
    rfl

/-- A guarded step keeps the invariant, and what is known only grows. -/
theorem Orden.step (huid : ∀ n, uid n ≠ "") (h : Orden uid k s)
    {a : Paso ι} {s' : Estado ι} (hok : Ordenado s a)
    (hstep : programa.step s a = some s') :
    ∃ k', k.Crece k' ∧ Orden uid k' s' := by
  cases a with
  | event i e =>
      obtain ⟨⟨a', ws⟩, hreact, rfl⟩ := Program.step_event hstep
      refine ⟨k, .refl k, h.mueve ?_⟩
      have hbien : EventoBien s i e := hok (i, e) rfl
      cases e with
      | busca e => exact h.alBuscar huid hbien hreact
      | juega e => exact h.alJugar hbien hreact
      | cancelarJugada g => exact h.alCancelar huid hbien hreact
  | arrive i =>
      obtain ⟨w, ws, hbox, rfl⟩ := Program.step_arrive hstep
      obtain ⟨k', hle, hs', -⟩ := h.recibe hbox
      exact ⟨k', hle, hs'⟩
  | confirm i =>
      obtain ⟨w, ok, rest, hbox, rfl⟩ := Program.step_confirm hstep
      have hrest : rest ⊆ s.acks i := subset_of_eq_cons hbox
      have hsaca := h.saca (update_subset hrest) fun n =>
        List.Subset.refl (s.inbox n)
      refine ⟨k, .refl k, hsaca.mueve (Mueve.callado ?_ (h.juega i))⟩
      have hw := h.acks i (w, ok) (mem_of_eq_cons hbox)
      have hb := h.busca i
      unfold pendientes at hb ⊢
      rw [hbox, List.map_cons, List.cons_append] at hb
      dsimp only
      rw [Function.update_self]
      exact hb.ack hw
  | deliver i =>
      obtain ⟨db, rest, hbox, rfl⟩ := Program.step_deliver hstep
      have hrest : rest ⊆ s.inbox i := subset_of_eq_cons hbox
      have hsaca := h.saca (fun n => List.Subset.refl (s.acks n))
        (update_subset hrest)
      have hdb := h.inbox i db (mem_of_eq_cons hbox)
      refine ⟨k, .refl k, ?_⟩
      rcases MultPlayer.snapshot_cases (s.outbox i) db (s.client i).juega with
        hsame | ⟨-, -, j, m', hj, hsnap, hrec⟩
      · have hr : programa.snapshot (s.outbox i) db (s.client i) =
            (s.client i, []) := by
          simp only [programa, hsame]
        rw [hr]
        exact hsaca.mueve (Mueve.callado (hsaca.busca i) (h.juega i))
      · have hr : programa.snapshot (s.outbox i) db (s.client i) =
            ({ s.client i with juega := m' }, []) := by
          simp only [programa, hsnap]
        rw [hr]
        refine hsaca.mueve (Mueve.callado (hsaca.busca i) fun j' hj' => ?_)
        rw [hrec.afin.jugadaId,
          ← Option.some.inj (hrec.jugada.symm.trans hj')]
        exact hdb _ j hj
  | skip i =>
      obtain ⟨db, rest, hbox, rfl⟩ := Program.step_skip hstep
      have hrest : rest ⊆ s.inbox i := subset_of_eq_cons hbox
      exact ⟨k, .refl k, h.saca (fun n => List.Subset.refl (s.acks n))
        (update_subset hrest)⟩

/-- What is known after a guarded run is what was known before, and more. -/
theorem Orden.run (huid : ∀ n, uid n ≠ "") (h : Orden uid k s)
    {acts : List (Paso ι)} {t : Estado ι}
    (hok : Runs.Along programa.step Ordenado s acts)
    (hrun : Runs.run programa.step s acts = some t) :
    ∃ k', k.Crece k' ∧ Orden uid k' t := by
  refine Runs.invariant (I := fun t => ∃ k', k.Crece k' ∧ Orden uid k' t)
    ?_ ⟨k, .refl k, h⟩ hok hrun
  rintro t a t' ⟨k', hle, ht⟩ ha hstep
  obtain ⟨k'', hle', ht'⟩ := ht.step huid ha hstep
  exact ⟨k'', hle.trans hle', ht'⟩

end Steps

/-! ## The second seat is exclusive -/

omit [DecidableEq ι] in
theorem orden_inicial (uid juego : ι → String)
    (users : String → Option User) :
    Orden uid ⟨fun _ => none, fun _ => none⟩ (inicial uid juego users) where
  server := ⟨rfl, nofun, nofun, nofun, nofun⟩
  outbox := fun _ _ hw => absurd hw List.not_mem_nil
  acepta := fun _ _ hw => absurd hw List.not_mem_nil
  cola := fun _ => List.Pairwise.nil
  solo := fun _ _ _ _ hv => absurd hv List.not_mem_nil
  acks := fun _ _ hp => absurd hp List.not_mem_nil
  inbox := fun _ _ hdb => absurd hdb List.not_mem_nil
  busca := fun _ => ⟨rfl, List.forall_mem_nil _,
    fun _ => ⟨rfl, ⟨rfl, rfl⟩, List.forall_mem_nil _⟩,
    Or.inl (Or.inl rfl), nofun⟩
  juega := nofun

/-- A request that takes a seat finds the game there, with second seat, winner
and abandonment empty. -/
def EntraLibre (s : Estado ι) : Paso ι → Prop
  | .arrive i => ∀ w ∈ (s.outbox i).head?, ∀ g, w.sienta = some g →
      (s.server.aplicar w).2 = true →
        ∃ j, s.server.jugadas g = some j ∧ Libre j
  | .event _ _ | .confirm _ | .deliver _ | .skip _ => True

omit [DecidableEq ι] in
theorem Servida.sentado {uid : ι → String} {k : Mesas ι} {db : BaseDatos}
    (h : Servida uid k db) {g : String} {j : Jugada}
    (hj : db.jugadas g = some j) (hdos : j.jugadorDosID ≠ "") :
    ∃ i, k.asiento g = some i ∧ j.jugadorDosID = uid i := by
  cases hasiento : k.asiento g with
  | none => exact absurd (h.libre g j hj hasiento).1 hdos
  | some i => exact ⟨i, rfl, h.dos g j i hj hasiento⟩

/-- In every run whose steps are in order: the second player is not the
creator; he is never replaced; a request that succeeds has found the game free;
and besides the creator only one device starts the match. -/
theorem asiento_exclusivo {uid juego : ι → String}
    {users : String → Option User} {acts : List (Paso ι)} {s : Estado ι}
    (huid : ∀ n, uid n ≠ "")
    (hrun : Runs.run programa.step (inicial uid juego users) acts = some s)
    (hok : Runs.Along programa.step Ordenado (inicial uid juego users) acts) :
    (∀ g j, s.server.jugadas g = some j → j.jugadorDosID ≠ "" →
      j.jugadorDosID ≠ j.jugadorUnoID) ∧
    (∀ xs ys t g j₁ j₂, acts = xs ++ ys →
      Runs.run programa.step (inicial uid juego users) xs = some t →
      t.server.jugadas g = some j₁ → j₁.jugadorDosID ≠ "" →
      s.server.jugadas g = some j₂ → j₂.jugadorDosID = j₁.jugadorDosID) ∧
    Runs.Along programa.step EntraLibre (inicial uid juego users) acts ∧
    ∀ i n g, g ≠ "" → g ∈ (s.client i).busca.empezadas →
      g ∈ (s.client n).busca.empezadas →
      s.server.creador g ≠ some (uid i) → s.server.creador g ≠ some (uid n) →
      i = n := by
  have hinit := orden_inicial uid juego users
  obtain ⟨k, -, hk⟩ := hinit.run huid hok hrun
  refine ⟨?_, ?_, ?_, ?_⟩
  · intro g j hj hdos heq
    obtain ⟨i, hi, hdos'⟩ := hk.server.sentado hj hdos
    obtain ⟨c, hc, hne⟩ := hk.server.ajeno g i hi
    have huno := hk.server.uno g j hj
    rw [hc] at huno
    exact hne ((Option.some.inj huno).trans (heq.symm.trans hdos'))
  · rintro xs ys t g j₁ j₂ rfl hxs hj₁ hdos hj₂
    obtain ⟨k₁, -, hk₁⟩ := hinit.run huid hok.take hxs
    rw [Runs.run_append, hxs] at hrun
    obtain ⟨k₂, hle, hk₂⟩ := hk₁.run huid (hok.drop hxs) hrun
    obtain ⟨i, hi, hdos₁⟩ := hk₁.server.sentado hj₁ hdos
    rw [hdos₁]
    exact hk₂.server.dos g j₂ i hj₂ (hle.asiento g i hi)
  · refine Runs.Along.of_invariant (I := fun t => ∃ k, Orden uid k t) ?_ ?_
      ⟨_, hinit⟩ hok
    · rintro t a t' ⟨k, ht⟩ ha hstep
      obtain ⟨k', -, ht'⟩ := ht.step huid ha hstep
      exact ⟨k', ht'⟩
    · rintro t (⟨i, e⟩ | i | i | i | i) ⟨k, ht⟩ -
      · trivial
      · intro w hw g hg hacepta
        obtain ⟨ws, hbox⟩ : ∃ ws, t.outbox i = w :: ws :=
          ⟨(t.outbox i).tail, List.eq_cons_of_mem_head? hw⟩
        obtain ⟨k', -, -, hlibre⟩ := ht.recibe hbox
        exact hlibre g hg hacepta
      · trivial
      · trivial
      · trivial
  · intro i n g hg hi hn hci hcn
    have hasiento : ∀ m, g ∈ (s.client m).busca.empezadas →
        s.server.creador g ≠ some (uid m) → k.asiento g = some m := by
      intro m hm hc
      rcases (hk.busca m).empezadas g hm with hvacia | hpropia | hsentado
      · exact absurd hvacia hg
      · rw [← hk.server.creador] at hpropia
        exact absurd hpropia hc
      · exact hsentado
    exact Option.some.inj ((hasiento i hi hci).symm.trans (hasiento n hn hcn))

/-- Three devices, of `a`, `b` and `c`. -/
inductive Trio where
  | ana
  | blas
  | carla
deriving DecidableEq, Repr

instance : Fintype Trio :=
  ⟨{.ana, .blas, .carla}, fun i => by cases i <;> decide⟩

def deTres : Trio → String
  | .ana => "a"
  | .blas => "b"
  | .carla => "c"

/-- `a` finds no game and creates `g`. -/
def creaAna : List (Paso (Trio)) :=
  [.event .ana (.busca (.onCreate .pLibre)), .event .ana (.busca .onStart),
    .event .ana (.busca (.responde [])),
    .event .ana (.busca (.onComplete ["g"])), .arrive .ana, .confirm .ana]

/-- Device `i` searches and finds `g`. -/
def encuentra (i : Trio) : List (Paso (Trio)) :=
  [.event i (.busca (.onCreate .pLibre)), .event i (.busca .onStart),
    .event i (.busca (.responde [("g", Jugada.nueva "a" "")]))]

/-- Device `i` claims the game it has found. -/
def reclamaG (i : Trio) : List (Paso (Trio)) :=
  [.event i (.busca (.onComplete ["x", "y"])), .arrive i]

/-- `b` finds the game of `a` and joins; both start the match. -/
def juegan : List (Paso (Trio)) :=
  creaAna ++ encuentra .blas ++ reclamaG .blas ++ [.confirm .blas,
    .event .ana (.busca (.emite 0)), .event .ana (.busca .onEvent),
    .event .ana (.busca .run)]

theorem asiento_exclusivo_juegan :
    ∃ s, Runs.run programa.step
        (inicial deTres (fun _ => "g") fun _ => none) juegan = some s ∧
      "g" ∈ (s.client .ana).busca.empezadas ∧
      "g" ∈ (s.client .blas).busca.empezadas ∧
      ∀ g j, s.server.jugadas g = some j → j.jugadorDosID ≠ "" →
        j.jugadorDosID ≠ j.jugadorUnoID := by
  have hvalor : (Runs.run programa.step
      (inicial deTres (fun _ => "g") fun _ => none) juegan).map
        (fun s => ((s.client .ana).busca.empezadas,
          (s.client .blas).busca.empezadas)) = some (["g"], ["g"]) := by
    decide
  obtain ⟨s, hrun, h⟩ := Option.map_eq_some_iff.mp hvalor
  obtain ⟨h₀, h₁⟩ := Prod.mk.inj h
  refine ⟨s, hrun, ?_, ?_, (asiento_exclusivo (by decide) hrun (by decide)).1⟩
  · rw [h₀]
    exact List.mem_singleton_self "g"
  · rw [h₁]
    exact List.mem_singleton_self "g"

/-- `b` and `c` find the game of `a`; `b` joins, and so does `c`. -/
def dosEncuentran : List (Paso (Trio)) :=
  creaAna ++ encuentra .blas ++ encuentra .carla ++ reclamaG .blas ++ [.confirm .blas]

/-- The second seat goes from `b` to `c`, and both have started the match. -/
theorem asiento_robado :
    ∃ s t, Runs.run programa.step
        (inicial deTres (fun _ => "g") fun _ => none) dosEncuentran = some s ∧
      Runs.run programa.step s (reclamaG .carla ++ [.confirm .carla]) = some t ∧
      (s.server.jugadas "g").map Jugada.jugadorDosID = some "b" ∧
      (t.server.jugadas "g").map Jugada.jugadorDosID = some "c" ∧
      (t.client .blas).busca.empezadas = ["g"] ∧
      (t.client .carla).busca.empezadas = ["g"] := by
  have hantes : (Runs.run programa.step
      (inicial deTres (fun _ => "g") fun _ => none) dosEncuentran).map
        (fun s => (s.server.jugadas "g").map Jugada.jugadorDosID) =
      some (some "b") := by
    decide
  have hluego : (Runs.run programa.step
      (inicial deTres (fun _ => "g") fun _ => none)
        (dosEncuentran ++ (reclamaG .carla ++ [.confirm .carla]))).map
        (fun t => ((t.server.jugadas "g").map Jugada.jugadorDosID,
          (t.client .blas).busca.empezadas, (t.client .carla).busca.empezadas)) =
      some (some "c", ["g"], ["g"]) := by
    decide
  obtain ⟨s, hrun, hs⟩ := Option.map_eq_some_iff.mp hantes
  rw [Runs.run_append, hrun] at hluego
  obtain ⟨t, hrest, ht⟩ := Option.map_eq_some_iff.mp hluego
  obtain ⟨hdos, hempezadas⟩ := Prod.mk.inj ht
  obtain ⟨h₁, h₂⟩ := Prod.mk.inj hempezadas
  exact ⟨s, t, hrun, hrest, hs, hdos, h₁, h₂⟩

end Tocate.Sala
