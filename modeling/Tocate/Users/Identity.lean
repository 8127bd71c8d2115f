import Tocate.Partida.System

/-!
# Whose record a match screen stores

Any number of devices play, join and refuse any number of games.  A screen whose
user is not the creator of its game credits `userjDos`, which was loaded from
whatever second seat the first snapshots showed, and stores that object whole at
its own `users/{uid}`.  The records keep their names and photos as long as the
seat that such a screen is shown while it loads is its own.
-/

namespace Tocate.Identidad

open Cloud Partida

variable {ι : Type*} [DecidableEq ι]

abbrev Mesa (ι : Type*) := State ι BaseDatos Escritura MultPlayer

/-- Device `i` belongs to user `uid i` and looks at the game `juego i`. -/
def abierta (uid juego : ι → String) (db : BaseDatos) : Mesa ι where
  server := db
  outbox := fun _ => []
  acks := fun _ => []
  inbox := fun _ => []
  client := fun i => MultPlayer.creada (uid i) (juego i)
  issued := []

/-- Name and photo of the record `users/{x}`. -/
def identidades (db : BaseDatos) (x : String) : Option (String × String) :=
  (db.users x).map User.identidad

/-- The games show the creators that are on record. -/
def Registrada (db : BaseDatos) : Prop :=
  ∀ g j, db.jugadas g = some j → db.creador g = some j.jugadorUnoID

/-- While a name is missing, a snapshot reaches a screen only with its user in
one of the seats. -/
def CargaPropia (s : Mesa ι) (a : Action ι Suceso) : Prop :=
  ∀ i ∈ a.deliver?,
    (s.client i).nombreJuno = "" ∨ (s.client i).nombreJdos = "" →
      (s.outbox i).any (Escritura.toca (s.client i).jugadaId) = false →
        ∀ db ∈ (s.inbox i).head?, ∀ j ∈ db.jugadas (s.client i).jugadaId,
          j.jugadorUnoID = (s.client i).uid ∨
            j.jugadorDosID = (s.client i).uid

instance (s : Mesa ι) (a : Action ι Suceso) : Decidable (CargaPropia s a) :=
  inferInstanceAs (Decidable (∀ i ∈ a.deliver?, _ → _ →
    ∀ db ∈ (s.inbox i).head?, ∀ j ∈ db.jugadas (s.client i).jugadaId, _))

/-! ## Records come from where they are stored -/

/-- The object is the record, as far as the identity goes, of the document it
was read from. -/
def Fiel (db₀ : BaseDatos) (l : Leido) : Prop :=
  identidades db₀ l.de = some l.user.identidad

/-- What holds of a screen, with the creators `k`: the first record is the
creator's, and the second one the user's own unless he is the creator. -/
structure Propia (db₀ : BaseDatos) (uid : String) (k : String → Option String)
    (m : MultPlayer) : Prop where
  uid : m.uid = uid
  jugada : ∀ j, m.jugada = some j → k m.jugadaId = some j.jugadorUnoID
  pedidosUno : ∀ id ∈ m.pedidosUno, k m.jugadaId = some id
  pedidosDos : ∀ id ∈ m.pedidosDos, k m.jugadaId = some m.uid ∨ id = m.uid
  userjUno : ∀ l, m.userjUno = some l →
    k m.jugadaId = some l.de ∧ Fiel db₀ l
  userjDos : ∀ l, m.userjDos = some l →
    (k m.jugadaId = some m.uid ∨ l.de = m.uid) ∧ Fiel db₀ l

/-- A write of device `i` that leaves seats and identities in order. -/
def Admitida (db₀ : BaseDatos) (uid : String) (k : String → Option String) :
    Escritura → Prop
  | .setJugada g j | .reclamar g j => k g = some j.jugadorUnoID
  | .unirse _ _ | .rechazar _ _ => True
  | .setUser x l => x = uid ∧ l.de = x ∧ Fiel db₀ l
  | .addJugada _ _ | .deleteJugada _ => False

def EnOrden (db₀ : BaseDatos) (k : String → Option String) (db : BaseDatos) :
    Prop :=
  (∀ g j, db.jugadas g = some j → k g = some j.jugadorUnoID) ∧
    ∀ x, identidades db x = identidades db₀ x

/-- Identities, part by part.  What is known is who created which game. -/
def origen (db₀ : BaseDatos) (uid : ι → String) :
    Parts ι BaseDatos Escritura MultPlayer (String → Option String) where
  know := fun s => s.server.creador
  le := fun k k' => ∀ g c, k g = some c → k' g = some c
  doc := fun k db => EnOrden db₀ k db
  write := fun k i w => Admitida db₀ (uid i) k w
  ack := fun _ _ _ => True
  shot := fun k _ db => EnOrden db₀ k db
  client := fun k i m => Propia db₀ (uid i) k m

theorem aplicar_enOrden {db₀ db : BaseDatos} {uid : String}
    {k : String → Option String} {w : Escritura}
    (hw : Admitida db₀ uid k w) (hdb : EnOrden db₀ k db) :
    EnOrden db₀ k (db.aplicar w).1 ∧ (db.aplicar w).1.creador = db.creador := by
  obtain ⟨hjug, hid⟩ := hdb
  have hset : ∀ g j, k g = some j.jugadorUnoID →
      EnOrden db₀ k (db.conJugada g (some j)) := by
    intro g j hg
    refine ⟨fun g' j' hj' => ?_, hid⟩
    rcases BaseDatos.conJugada_eq_some hj' with ⟨rfl, hnew⟩ | ⟨-, hold⟩
    · rw [← Option.some.inj hnew]
      exact hg
    · exact hjug g' j' hold
  have hupdate : ∀ g f, (∀ j : Jugada, (f j).jugadorUnoID = j.jugadorUnoID) →
      EnOrden db₀ k (db.update g f).1 ∧
        (db.update g f).1.creador = db.creador := by
    intro g f hf
    unfold BaseDatos.update
    split
    · exact ⟨⟨hjug, hid⟩, rfl⟩
    next j hj => exact ⟨hset g (f j) (by rw [hf, hjug g j hj]), rfl⟩
  cases w with
  | addJugada g j => exact hw.elim
  | setJugada g j => exact ⟨hset g j hw, rfl⟩
  | reclamar g j => exact ⟨hset g j hw, rfl⟩
  | unirse g x => exact hupdate g _ fun _ => rfl
  | rechazar g x => exact hupdate g _ fun _ => rfl
  | deleteJugada g => exact hw.elim
  | setUser x l =>
      obtain ⟨-, hde, hfiel⟩ := hw
      refine ⟨⟨hjug, fun y => ?_⟩, rfl⟩
      show identidades (db.conUser x l.user) y = identidades db₀ y
      by_cases hy : y = x
      · subst hy
        unfold identidades
        rw [BaseDatos.conUser_self, Option.map_some, ← hfiel, hde]
        rfl
      · unfold identidades
        rw [db.conUser_ne l.user hy]
        exact hid y

/-- What a device sees has the identities of the server. -/
theorem foldl_enOrden {db₀ db : BaseDatos} {uid : String}
    {k : String → Option String} {ws : List Escritura}
    (hws : ∀ w ∈ ws, Admitida db₀ uid k w) (hdb : EnOrden db₀ k db) :
    EnOrden db₀ k (ws.foldl (fun d w => (d.aplicar w).1) db) := by
  induction ws generalizing db with
  | nil => exact hdb
  | cons w ws ih =>
      refine ih (fun v hv => hws v (List.mem_cons_of_mem w hv)) ?_
      exact (aplicar_enOrden (hws w List.mem_cons_self) hdb).1

theorem Propia.mono {db₀ : BaseDatos} {uid : String}
    {k k' : String → Option String} {m : MultPlayer}
    (hle : ∀ g c, k g = some c → k' g = some c) (h : Propia db₀ uid k m) :
    Propia db₀ uid k' m where
  uid := h.uid
  jugada := fun j hj => hle _ _ (h.jugada j hj)
  pedidosUno := fun id hid => hle _ _ (h.pedidosUno id hid)
  pedidosDos := fun id hid => (h.pedidosDos id hid).imp (hle _ _) fun h => h
  userjUno := fun l hl => ⟨hle _ _ (h.userjUno l hl).1, (h.userjUno l hl).2⟩
  userjDos := fun l hl =>
    ⟨(h.userjDos l hl).1.imp (hle _ _) fun h => h, (h.userjDos l hl).2⟩

theorem Admitida.mono {db₀ : BaseDatos} {uid : String}
    {k k' : String → Option String} {w : Escritura}
    (hle : ∀ g c, k g = some c → k' g = some c) (h : Admitida db₀ uid k w) :
    Admitida db₀ uid k' w := by
  cases w with
  | setJugada g j => exact hle _ _ h
  | reclamar g j => exact hle _ _ h
  | unirse g x => trivial
  | rechazar g x => trivial
  | setUser x l => exact h
  | addJugada g j => exact h.elim
  | deleteJugada g => exact h.elim

/-- The record that a call credits was read from the user's own document. -/
theorem Propia.propio_de {db₀ : BaseDatos} {uid : String}
    {k : String → Option String} {m : MultPlayer} (h : Propia db₀ uid k m)
    {j : Jugada} (hj : k m.jugadaId = some j.jugadorUnoID) {l : Leido}
    (hl : m.propio j = some l) : l.de = uid ∧ Fiel db₀ l := by
  unfold MultPlayer.propio at hl
  split at hl
  next huno =>
    obtain ⟨hde, hfiel⟩ := h.userjUno l hl
    rw [hj] at hde
    refine ⟨?_, hfiel⟩
    rw [← h.uid, ← huno]
    exact (Option.some.inj hde).symm
  next huno =>
    obtain ⟨hcreador | hde, hfiel⟩ := h.userjDos l hl
    · rw [hj] at hcreador
      exact absurd (Option.some.inj hcreador) huno
    · exact ⟨hde.trans h.uid, hfiel⟩

section Handlers

variable {db₀ db vista : BaseDatos} {uid : String}
  {k : String → Option String} {m m' : MultPlayer} {ws : List Escritura}

/-- A record that was asked for is faithful. -/
theorem fiel_of_leida (hvista : EnOrden db₀ k vista) {pedidos : List String}
    {o : Option Leido} (h : MultPlayer.Leida vista pedidos o) {l : Leido}
    (hl : o = some l) : l.de ∈ pedidos ∧ Fiel db₀ l := by
  obtain ⟨id, hid, rfl⟩ := h
  obtain ⟨u, hu, rfl⟩ := Option.map_eq_some_iff.mp hl
  refine ⟨hid, ?_⟩
  show identidades db₀ id = some u.identidad
  rw [← hvista.2 id, identidades, hu]
  rfl

theorem Propia.toque {imagen : Imagen} {aleatorio : Fin 3} {j : Jugada}
    (hm : Propia db₀ uid k m)
    (ht : MultPlayer.Toque m imagen aleatorio j m' ws) :
    Propia db₀ uid k m' ∧ ∀ w ∈ ws, Admitida db₀ uid k w := by
  have hj := hm.jugada j ht.antes
  refine ⟨⟨?_, ?_, ?_, ?_, ?_, ?_⟩, ?_⟩
  · rw [ht.uid, hm.uid]
  · intro i hi
    rw [ht.jugada] at hi
    cases hi
    rw [ht.jugadaId]
    exact hj
  · rw [ht.pedidosUno, ht.jugadaId]
    exact hm.pedidosUno
  · rw [ht.pedidosDos, ht.jugadaId, ht.uid]
    exact hm.pedidosDos
  · rw [ht.userjUno, ht.jugadaId]
    exact hm.userjUno
  · rw [ht.userjDos, ht.jugadaId, ht.uid]
    exact hm.userjDos
  · intro w hw
    rw [ht.writes, List.mem_singleton] at hw
    subst hw
    exact hj

theorem Propia.base {e : MultPlayer.Suceso} (hm : Propia db₀ uid k m)
    (hbase : MultPlayer.Base (m.alLlamar e) m')
    (hjug : ∀ j, m'.jugada = some j → k m.jugadaId = some j.jugadorUnoID)
    (huno : ∀ l, m'.userjUno = some l → k m.jugadaId = some l.de ∧ Fiel db₀ l)
    (hdos : ∀ l, m'.userjDos = some l →
      (k m.jugadaId = some m.uid ∨ l.de = m.uid) ∧ Fiel db₀ l) :
    Propia db₀ uid k m' := by
  have hid : m'.jugadaId = m.jugadaId := by
    rw [hbase.afin.jugadaId, MultPlayer.alLlamar_jugadaId]
  have huid : m'.uid = m.uid := by
    rw [hbase.afin.uid, MultPlayer.alLlamar_uid]
  refine ⟨huid.trans hm.uid, ?_, ?_, ?_, ?_, ?_⟩
  · rw [hid]
    exact hjug
  · rw [hid, hbase.pedidosUno]
    exact fun id h => hm.pedidosUno id (m.alLlamar_pedidos_subset e .uno h)
  · rw [hid, huid, hbase.pedidosDos]
    exact fun id h => hm.pedidosDos id (m.alLlamar_pedidos_subset e .dos h)
  · rw [hid]
    exact huno
  · rw [hid, huid]
    exact hdos

theorem Propia.termina {e : MultPlayer.Suceso} {j : Jugada}
    (hm : Propia db₀ uid k m) (hj : (m.alLlamar e).jugada = some j)
    (ht : MultPlayer.Termina (m.alLlamar e) j m' ws) :
    Propia db₀ uid k m' ∧ ∀ w ∈ ws, Admitida db₀ uid k w := by
  have huno : k m.jugadaId = some j.jugadorUnoID := by
    obtain ⟨i, hi, rfl | ⟨-, rfl⟩⟩ := m.alLlamar_jugada e hj
    · exact hm.jugada j hi
    · exact hm.jugada i hi
  have hcorona : ∀ i, m'.jugada = some i →
      k m.jugadaId = some i.jugadorUnoID := by
    intro i hi
    rw [ht.jugada] at hi
    cases hi
    exact huno
  rcases ht.credito with ⟨-, hws, -, hju, hjd⟩ | ⟨u, hu, hws, hju, hjd⟩
  · refine ⟨hm.base ht.base hcorona ?_ ?_, ?_⟩
    · rw [hju, MultPlayer.alLlamar_userjUno]
      exact hm.userjUno
    · rw [hjd, MultPlayer.alLlamar_userjDos]
      exact hm.userjDos
    · intro w hw
      rw [hws, MultPlayer.alLlamar_jugadaId, List.mem_singleton] at hw
      subst hw
      exact huno
  · rw [MultPlayer.alLlamar_propio] at hu
    obtain ⟨hde, hfiel⟩ := hm.propio_de huno hu
    have hde' : u.de = m.uid := hde.trans hm.uid.symm
    refine ⟨hm.base ht.base hcorona ?_ ?_, ?_⟩
    · intro l hl
      rw [hju] at hl
      rcases MultPlayer.conPropio_registro_eq_some (p := .uno) _ _ _ hl with
        hl | ⟨hyo, rfl⟩
      · exact hm.userjUno l ((m.alLlamar_userjUno e).symm.trans hl)
      · refine ⟨?_, hfiel⟩
        rw [huno, Leido.acredita_de, hde', MultPlayer.suPuesto_eq_uno.mp hyo,
          MultPlayer.alLlamar_uid]
    · intro l hl
      rw [hjd] at hl
      rcases MultPlayer.conPropio_registro_eq_some (p := .dos) _ _ _ hl with
        hl | ⟨-, rfl⟩
      · exact hm.userjDos l ((m.alLlamar_userjDos e).symm.trans hl)
      · exact ⟨Or.inr hde', hfiel⟩
    · intro w hw
      rw [hws, MultPlayer.alLlamar_jugadaId, MultPlayer.alLlamar_uid,
        List.mem_cons, List.mem_singleton] at hw
      rcases hw with rfl | rfl
      · exact huno
      · exact ⟨hm.uid, hde', hfiel⟩

theorem Propia.calla {e : MultPlayer.Suceso} (hm : Propia db₀ uid k m)
    (hvista : EnOrden db₀ k vista) (hc : MultPlayer.Calla vista m e m' ws) :
    Propia db₀ uid k m' ∧ ∀ w ∈ ws, Admitida db₀ uid k w := by
  refine ⟨⟨?_, ?_, ?_, ?_, ?_, ?_⟩, ?_⟩
  · rw [hc.uid, hm.uid]
  · rw [hc.jugada, hc.jugadaId]
    exact hm.jugada
  · rw [hc.jugadaId]
    exact fun id hid => hm.pedidosUno id (hc.pedidos .uno hid)
  · rw [hc.jugadaId, hc.uid]
    exact fun id hid => hm.pedidosDos id (hc.pedidos .dos hid)
  · rw [hc.jugadaId]
    rcases hc.registro .uno with hsame | hleida
    · exact fun l hl => hm.userjUno l (hsame.symm.trans hl)
    · intro l hl
      obtain ⟨hmem, hfiel⟩ := fiel_of_leida hvista hleida hl
      exact ⟨hm.pedidosUno _ hmem, hfiel⟩
  · rw [hc.jugadaId, hc.uid]
    rcases hc.registro .dos with hsame | hleida
    · exact fun l hl => hm.userjDos l (hsame.symm.trans hl)
    · intro l hl
      obtain ⟨hmem, hfiel⟩ := fiel_of_leida hvista hleida hl
      exact ⟨hm.pedidosDos _ hmem, hfiel⟩
  · rw [hc.writes]
    exact List.forall_mem_nil _

/-- One event on a device. -/
theorem Propia.react {e : Suceso} (hm : Propia db₀ uid k m)
    (hdb : EnOrden db₀ k db) (hvista : EnOrden db₀ k vista)
    (h : Partida.react db vista m e = some (m', ws)) :
    Propia db₀ uid k m' ∧ ∀ w ∈ ws, Admitida db₀ uid k w := by
  rcases react_cases h with ⟨e', rfl, hmult, -⟩ | ⟨rfl, j, w, hj, -, rfl, hw⟩
  · rcases e'.clases with ⟨imagen, aleatorio, rfl⟩ | hgame | hcallado
    · obtain ⟨-, -, ⟨-, rfl, rfl⟩ | ⟨j, ht⟩⟩ := MultPlayer.react_clic hmult
      · exact ⟨⟨hm.uid, hm.jugada, hm.pedidosUno, hm.pedidosDos, hm.userjUno,
          hm.userjDos⟩, List.forall_mem_nil _⟩
      · exact hm.toque ht
    · rcases MultPlayer.react_gameover hgame hmult with hc | ⟨j, hj, ht⟩
      · refine ⟨hm.base hc.base ?_ ?_ ?_, ?_⟩
        · rw [hc.jugada]
          exact nofun
        · rw [hc.userjUno, MultPlayer.alLlamar_userjUno]
          exact hm.userjUno
        · rw [hc.userjDos, MultPlayer.alLlamar_userjDos]
          exact hm.userjDos
        · rw [hc.writes]
          exact List.forall_mem_nil _
      · exact hm.termina hj ht
    · exact hm.calla hvista (MultPlayer.react_callado hcallado hmult)
  · refine ⟨hm, fun v hv => ?_⟩
    rw [List.mem_singleton] at hv
    subst hv
    rcases hw with ⟨-, rfl⟩ | ⟨-, -, rfl⟩ | ⟨-, rfl⟩
    · trivial
    · exact hdb.1 _ j hj
    · trivial

/-- A snapshot with the user in one of the seats. -/
theorem Propia.recibe {j : Jugada} (hm : Propia db₀ uid k m)
    (hj : k m.jugadaId = some j.jugadorUnoID)
    (hcarga : m.nombreJuno = "" ∨ m.nombreJdos = "" →
      j.jugadorUnoID = m.uid ∨ j.jugadorDosID = m.uid)
    (hrec : MultPlayer.Recibe m j m') : Propia db₀ uid k m' := by
  refine ⟨?_, ?_, ?_, ?_, ?_, ?_⟩
  · rw [hrec.afin.uid, hm.uid]
  · intro i hi
    rw [hrec.jugada] at hi
    cases hi
    rw [hrec.afin.jugadaId]
    exact hj
  · rw [hrec.afin.jugadaId]
    rcases hrec.pedidosUno with hp | ⟨-, hp⟩
    · rw [hp]
      exact hm.pedidosUno
    · rw [hp]
      intro id hid
      rcases List.mem_append.mp hid with hold | hnew
      · exact hm.pedidosUno id hold
      · rw [List.mem_singleton.mp hnew]
        exact hj
  · rw [hrec.afin.jugadaId, hrec.afin.uid]
    rcases hrec.pedidosDos with hp | ⟨hfalta, hp⟩
    · rw [hp]
      exact hm.pedidosDos
    · rw [hp]
      intro id hid
      rcases List.mem_append.mp hid with hold | hnew
      · exact hm.pedidosDos id hold
      · rw [List.mem_singleton.mp hnew]
        rcases hcarga hfalta with huno | hdos
        · exact Or.inl (huno ▸ hj)
        · exact Or.inr hdos
  · rw [hrec.userjUno, hrec.afin.jugadaId]
    exact hm.userjUno
  · rw [hrec.userjDos, hrec.afin.jugadaId, hrec.afin.uid]
    exact hm.userjDos

end Handlers

theorem origen_kept (db₀ : BaseDatos) (uid : ι → String) :
    (origen db₀ uid).Kept programa CargaPropia where
  grows := by
    intro s a s' hs _ hstep
    have hsame : s'.server.creador = s.server.creador := by
      rcases Program.step_flight hstep with ⟨i, w, ws, -, hbox, rfl⟩ |
        ⟨hserver, -⟩
      · have hw : w ∈ s.outbox i := mem_of_eq_cons hbox
        exact (aplicar_enOrden (hs.outbox i w hw) hs.server).2
      · rw [hserver]
    intro g c hc
    show s'.server.creador g = some c
    rw [hsame]
    exact hc
  doc_mono := fun hle h => ⟨fun g j hj => hle _ _ (h.1 g j hj), h.2⟩
  write_mono := fun hle h => h.mono hle
  ack_mono := fun _ h => h
  shot_mono := fun hle h => ⟨fun g j hj => hle _ _ (h.1 g j hj), h.2⟩
  client_mono := fun hle h => h.mono hle
  receive := by
    intro s i w ws hs _ hbox
    have hw : w ∈ s.outbox i := mem_of_eq_cons hbox
    obtain ⟨hdoc, hcreador⟩ := aplicar_enOrden (hs.outbox i w hw) hs.server
    have hknow : (origen db₀ uid).know (programa.receive s i w ws) =
        s.server.creador := hcreador
    rw [hknow]
    exact ⟨hdoc, trivial, fun _ _ => hdoc⟩
  react := by
    rintro s i e ⟨m', ws⟩ hs _ hreact
    obtain ⟨hm', hws⟩ := (hs.clients i).react hs.server
      (foldl_enOrden (hs.outbox i) hs.server) hreact
    exact ⟨hm', hws, fun _ => hs.server⟩
  confirm := by
    intro s i w b rest s' hs _ _ hstep
    obtain ⟨_, _, _, -, rfl⟩ := Program.step_confirm hstep
    exact ⟨hs.clients i, List.forall_mem_nil _,
      fun _ => hs.server⟩
  deliver := by
    intro s i d rest s' hs hok hbox hstep
    obtain ⟨_, _, -, rfl⟩ := Program.step_deliver hstep
    have hd := hs.inbox i d (mem_of_eq_cons hbox)
    have hm := hs.clients i
    rcases MultPlayer.snapshot_cases (s.outbox i) d (s.client i) with hsame |
      ⟨-, hpend, j, m', hj, hsnap, hrec⟩
    · have hsame' : programa.snapshot (s.outbox i) d (s.client i) =
          (s.client i, []) := hsame
      rw [hsame']
      exact ⟨hm, List.forall_mem_nil _, fun _ => hs.server⟩
    · have hsnap' : programa.snapshot (s.outbox i) d (s.client i) =
          (m', []) := hsnap
      rw [hsnap']
      refine ⟨?_, List.forall_mem_nil _, fun _ => hs.server⟩
      refine hm.recibe (hd.1 _ j hj) ?_ hrec
      exact fun hfalta => hok i rfl hfalta hpend d (by rw [hbox]; rfl) j hj

/-- Names and photos stay, and what is on its way to a record was read from
that record, in every run in which a screen that loads is shown its own
seat. -/
theorem identidad_conservada {uid juego : ι → String} {db : BaseDatos}
    {acts : List (Action ι Suceso)} {s : Mesa ι} (hdb : Registrada db)
    (hrun : Runs.run programa.step (abierta uid juego db) acts = some s)
    (hok : Runs.Along programa.step CargaPropia (abierta uid juego db) acts) :
    (∀ x, identidades s.server x = identidades db x) ∧
      ∀ i x l, .setUser x l ∈ s.outbox i → x = uid i ∧ l.de = x := by
  have hinit : (origen db uid).Holds (abierta uid juego db) := by
    refine ⟨⟨hdb, fun _ => rfl⟩, ?_, ?_, ?_, ?_⟩
    · exact fun i w hw => absurd hw List.not_mem_nil
    · exact fun i w hw => absurd hw List.not_mem_nil
    · exact fun i w hw => absurd hw List.not_mem_nil
    · exact fun i => ⟨rfl, nofun, nofun, nofun, nofun, nofun⟩
  have h := (origen_kept db uid).run hinit hok hrun
  refine ⟨h.server.2, fun i x l hmem => ?_⟩
  obtain ⟨hx, hde, -⟩ := h.outbox i _ hmem
  exact ⟨hx, hde⟩

/-- A free game of `a`, and the records of `a`, `b` and `c`. -/
def baseLibre : BaseDatos :=
  ((((BaseDatos.vacia.conJugada "j" (some (Jugada.nueva "a" ""))).conCreador
    "j" "a").conUser "a" (User.nuevo "Ana" 0 0 "")).conUser "b"
    (User.nuevo "Blas" 0 0 "")).conUser "c" (User.nuevo "Carla" 0 0 "")

/-- The devices of `b` and `c`. -/
def blasYCarla : Lado → String
  | .uno => "b"
  | .dos => "c"

theorem registrada_baseLibre : Registrada baseLibre := by
  intro g j hj
  by_cases hg : g = "j"
  · subst hg
    cases hj
    rfl
  · have hnone : baseLibre.jugadas g = none :=
      BaseDatos.vacia.conJugada_ne _ hg
    rw [hnone] at hj
    cases hj

/-- `b` finds the game, plays and leaves. -/
def juegaBlas : List (Action Lado Suceso) :=
  [.event .uno .buscarJugadaLibre, .arrive .uno] ++ entra .uno ++
    [.event .uno (.mult .onStop), .arrive .uno, .arrive .uno]

theorem identidad_conservada_blas :
    ∃ s, Runs.run programa.step
        (abierta blasYCarla (fun _ => "j") baseLibre) juegaBlas = some s ∧
      ∀ x, identidades s.server x = identidades baseLibre x := by
  obtain ⟨s, hrun⟩ := Option.isSome_iff_exists.mp
    (show (Runs.run programa.step (abierta blasYCarla (fun _ => "j") baseLibre)
      juegaBlas).isSome = true by decide)
  exact ⟨s, hrun, (identidad_conservada registrada_baseLibre hrun
    (by decide)).1⟩

/-- `b` and `c` find the same game at the same time; `b` is shown the seat of
`c`, plays and leaves. -/
def dosALaVez : List (Action Lado Suceso) :=
  [.event .uno .buscarJugadaLibre, .event .dos .buscarJugadaLibre,
    .arrive .uno, .arrive .dos] ++ entra .uno ++
    [.event .uno (.mult .onStop), .arrive .uno, .arrive .uno]

/-- The record of `b` carries the name of `c`. -/
theorem identidad_perdida :
    ∃ s, Runs.run programa.step
        (abierta blasYCarla (fun _ => "j") baseLibre) dosALaVez = some s ∧
      identidades baseLibre "b" = some ("Blas", "") ∧
      identidades s.server "b" = some ("Carla", "") := by
  have hvalor : (Runs.run programa.step
      (abierta blasYCarla (fun _ => "j") baseLibre) dosALaVez).map
        (fun s => identidades s.server "b") = some (some ("Carla", "")) := by
    decide
  obtain ⟨s, hrun, h⟩ := Option.map_eq_some_iff.mp hvalor
  exact ⟨s, hrun, by decide, h⟩

end Tocate.Identidad
