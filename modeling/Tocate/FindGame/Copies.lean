import Tocate.FindGame.Lobby
import Tocate.FindGame.Steps
import Tocate.Lib.Lasting

/-!
# The copies of a game

A game is held by the server, by the whole-document writes on their way to it,
by the server states on their way to a listener, by the match screens, and by
the replies of the free search.  Whatever depends only on how a game was
created, and holds of a game when it is added, holds of all its copies: no
writer touches the two fields that the creation sets.
-/

namespace Tocate

/-- The game and the document that the write stores whole. -/
def Escritura.documento : Escritura → Option (String × Jugada)
  | .setJugada g j | .reclamar g j => some (g, j)
  | .addJugada _ _ | .unirse _ _ | .rechazar _ _ | .deleteJugada _
  | .setUser _ _ => none

namespace Sala

open Cloud

variable {ι : Type*}

/-- The property looks at nothing but the two fields that are set when a game
is created. -/
def DeCreacion (F : String → Jugada → Prop) : Prop :=
  ∀ g j j', j'.jugadorUnoID = j.jugadorUnoID →
    j'.invitacionID = j.invitacionID → F g j → F g j'

/-- All copies of all games have the property. -/
structure Copias (F : String → Jugada → Prop) (s : Estado ι) : Prop where
  server : ∀ g j, s.server.jugadas g = some j → F g j
  outbox : ∀ i, ∀ w ∈ s.outbox i, ∀ g j, w.documento = some (g, j) → F g j
  inbox : ∀ i, ∀ db ∈ s.inbox i, ∀ g j, db.jugadas g = some j → F g j
  juega : ∀ i j, (s.client i).juega.jugada = some j →
    F (s.client i).juega.jugadaId j
  docs : ∀ i docs, (s.client i).busca.espera = .onComplete docs →
    ∀ p ∈ docs, F p.1 p.2

theorem Copias.mono {F F' : String → Jugada → Prop} {s : Estado ι}
    (h : Copias F s) (hle : ∀ g j, F g j → F' g j) : Copias F' s where
  server := fun g j hj => hle g j (h.server g j hj)
  outbox := fun i w hw g j hj => hle g j (h.outbox i w hw g j hj)
  inbox := fun i db hdb g j hj => hle g j (h.inbox i db hdb g j hj)
  juega := fun i j hj => hle _ j (h.juega i j hj)
  docs := fun i docs hd p hp => hle p.1 p.2 (h.docs i docs hd p hp)

theorem copias_inicial (F : String → Jugada → Prop) (uid juego : ι → String)
    (users : String → Option User) : Copias F (inicial uid juego users) where
  server := nofun
  outbox := fun _ => List.forall_mem_nil _
  inbox := fun _ => List.forall_mem_nil _
  juega := nofun
  docs := nofun

/-! ## One step -/

section Step

variable {F : String → Jugada → Prop} {uid : String}

/-- A write that meets the property leaves a server that meets it. -/
theorem aplicar_copias (hF : DeCreacion F) {db : BaseDatos} {w : Escritura}
    (hdb : ∀ g j, db.jugadas g = some j → F g j)
    (hw : ∀ g j, w.documento = some (g, j) → F g j)
    (hadd : ∀ g j, w = .addJugada g j → F g j) :
    ∀ g j, (db.aplicar w).1.jugadas g = some j → F g j := by
  have hcon : ∀ g j, F g j →
      ∀ g' j', (db.conJugada g (some j)).jugadas g' = some j' → F g' j' := by
    intro g j hj g' j' hj'
    rcases BaseDatos.conJugada_eq_some hj' with ⟨rfl, hnew⟩ | ⟨-, hold⟩
    · rw [← Option.some.inj hnew]
      exact hj
    · exact hdb g' j' hold
  have hupdate : ∀ g (f : Jugada → Jugada),
      (∀ j, (f j).jugadorUnoID = j.jugadorUnoID) →
      (∀ j, (f j).invitacionID = j.invitacionID) →
      ∀ g' j', (db.update g f).1.jugadas g' = some j' → F g' j' := by
    intro g f huno hinv g' j' hj'
    cases hg : db.jugadas g with
    | none =>
        rw [BaseDatos.update_none hg] at hj'
        exact hdb g' j' hj'
    | some j =>
        rw [BaseDatos.update_some hg] at hj'
        exact hcon g (f j) (hF g j (f j) (huno j) (hinv j) (hdb g j hg)) g' j' hj'
  cases w with
  | addJugada g j =>
      intro g' j' hj'
      simp only [BaseDatos.aplicar] at hj'
      split at hj'
      · exact hcon g j (hadd g j rfl) g' j' hj'
      · exact hdb g' j' hj'
  | setJugada g j => exact hcon g j (hw g j rfl)
  | reclamar g j => exact hcon g j (hw g j rfl)
  | unirse g u => exact hupdate g _ (fun _ => rfl) fun _ => rfl
  | rechazar g u => exact hupdate g _ (fun _ => rfl) fun _ => rfl
  | deleteJugada g =>
      intro g' j' hj'
      rcases BaseDatos.conJugada_eq_some hj' with ⟨-, hnone⟩ | ⟨-, hold⟩
      · cases hnone
      · exact hdb g' j' hold
  | setUser x l => exact hdb

/-- A device that sees its own writes on top of the server sees copies too. -/
theorem Copias.vista [DecidableEq ι] {s : Estado ι} (hF : DeCreacion F)
    (h : Copias F s) {i : ι}
    (hadd : ∀ g j, .addJugada g j ∈ s.outbox i → F g j) :
    ∀ g j, (programa.view s i).jugadas g = some j → F g j := by
  have hfold : ∀ (ws : List Escritura) (db : BaseDatos),
      (∀ g j, db.jugadas g = some j → F g j) →
      (∀ w ∈ ws, ∀ g j, w.documento = some (g, j) → F g j) →
      (∀ g j, .addJugada g j ∈ ws → F g j) →
      ∀ g j, (ws.foldl (fun d w => (d.aplicar w).1) db).jugadas g = some j →
        F g j := by
    intro ws
    induction ws with
    | nil => exact fun db hdb _ _ => hdb
    | cons w ws ih =>
        intro db hdb hdoc hnew
        refine ih (db.aplicar w).1 ?_
          (fun v hv => hdoc v (List.mem_cons_of_mem w hv))
          fun g j hj => hnew g j (List.mem_cons_of_mem w hj)
        exact aplicar_copias hF hdb (hdoc w List.mem_cons_self)
          fun g j hw => hnew g j (hw ▸ List.mem_cons_self)
  exact hfold (s.outbox i) s.server h.server (h.outbox i) hadd

/-- What a device may turn into and write. -/
structure Guarda (F : String → Jugada → Prop) (r : Aparato × List Escritura) :
    Prop where
  writes : ∀ w ∈ r.2, ∀ g j, w.documento = some (g, j) → F g j
  juega : ∀ j, r.1.juega.jugada = some j → F r.1.juega.jugadaId j
  docs : ∀ docs, r.1.busca.espera = .onComplete docs → ∀ p ∈ docs, F p.1 p.2

variable {db vista : BaseDatos} {a : Aparato} {r : Aparato × List Escritura}

theorem guarda_busca (hF : DeCreacion F)
    (hdb : ∀ g j, db.jugadas g = some j → F g j)
    (hjuega : ∀ j, a.juega.jugada = some j → F a.juega.jugadaId j)
    (hdocs : ∀ docs, a.busca.espera = .onComplete docs →
      ∀ p ∈ docs, F p.1 p.2) {e : FindGame.Suceso}
    (h : react db vista a (.busca e) = some r) : Guarda F r := by
  obtain ⟨a', ws⟩ := r
  obtain ⟨-, hbusca, higual⟩ := react_busca h
  obtain ⟨-, t, ht, hcierra⟩ := FindGame.react_eq_some hbusca
  obtain ⟨hstate, rfl⟩ := Prod.mk.inj hcierra
  refine ⟨?_, ?_, ?_⟩
  · intro w hw g j hj
    obtain ⟨id, inv⟩ | ⟨g', -⟩ | ⟨docs, p, nuevas, -, hespera, hp⟩ | ⟨g', -⟩ :=
      (FindGame.atiende_writes ht).1 w hw
    · cases hj
    · cases hj
    · obtain ⟨rfl, rfl⟩ := Prod.mk.inj (Option.some.inj hj)
      exact hF _ p.2 _ rfl rfl
        (hdocs docs hespera p (List.mem_of_find?_eq_some hp))
    · cases hj
  · simp only [higual]
    exact hjuega
  · intro docs hd p hp
    rw [show a'.busca.espera = t.state.espera by rw [hstate]] at hd
    rcases (FindGame.atiende_cambio ht).espera hd with hold | hnew
    · exact hdocs docs hold p hp
    · exact hdb p.1 p.2 (hnew p hp)

theorem documento_guarda {m : MultPlayer} {j : Jugada} {ws : List Escritura}
    (h : MultPlayer.Guarda m j ws) (hj : F m.jugadaId j) :
    ∀ w ∈ ws, ∀ g j, w.documento = some (g, j) → F g j := by
  refine h.forall_mem ?_ ?_
  · intro g k hk
    obtain ⟨rfl, rfl⟩ := Prod.mk.inj (Option.some.inj hk)
    exact hj
  · exact fun _ _ _ hk => absurd hk nofun

theorem guarda_juega (hF : DeCreacion F)
    (hjuega : ∀ j, a.juega.jugada = some j → F a.juega.jugadaId j)
    (hdocs : ∀ docs, a.busca.espera = .onComplete docs →
      ∀ p ∈ docs, F p.1 p.2) {e : MultPlayer.Suceso}
    (h : react db vista a (.juega e) = some r) : Guarda F r := by
  obtain ⟨a', ws⟩ := r
  obtain ⟨hmult, hbusca⟩ := react_juega h
  have hjug : (∀ w ∈ ws, ∀ g j, w.documento = some (g, j) → F g j) ∧
      ∀ j, a'.juega.jugada = some j → F a'.juega.jugadaId j := by
    rcases MultPlayer.react_efecto hmult with
      ⟨imagen, aleatorio, j, -, ht⟩ | ⟨-, j, hj, ht⟩ | ⟨-, hq⟩
    · have hF' : F a.juega.jugadaId
          (MultPlayer.tocada j (a.juega.cuenta imagen j) aleatorio) :=
        hF _ j _ rfl rfl (hjuega j ht.antes)
      refine ⟨documento_guarda ht.guarda hF', fun k hk => ?_⟩
      rw [ht.jugada] at hk
      rw [ht.jugadaId, ← Option.some.inj hk]
      exact hF'
    · obtain ⟨k, hk, hcopia⟩ := a.juega.alLlamar_jugada e hj
      have hF' : F a.juega.jugadaId (MultPlayer.coronada j) := by
        refine hF _ k _ ?_ ?_ (hjuega k hk)
        · rcases hcopia with rfl | ⟨-, rfl⟩ <;> rfl
        · rcases hcopia with rfl | ⟨-, rfl⟩ <;> rfl
      refine ⟨documento_guarda ht.guarda hF', fun k' hk' => ?_⟩
      rw [ht.jugada] at hk'
      rw [ht.base.afin.jugadaId, MultPlayer.alLlamar_jugadaId,
        ← Option.some.inj hk']
      exact hF'
    · rw [hq.writes, hq.jugada, hq.jugadaId]
      exact ⟨List.forall_mem_nil _, hjuega⟩
  refine ⟨hjug.1, hjug.2, ?_⟩
  simp only [hbusca]
  exact hdocs

/-- A match screen stores matches and records. -/
theorem juega_escribe {a' : Aparato} {ws : List Escritura}
    {e : MultPlayer.Suceso} (h : react db vista a (.juega e) = some (a', ws)) :
    ∀ w ∈ ws, (∃ g j, w = .setJugada g j) ∨ ∃ x l, w = .setUser x l := by
  obtain ⟨hmult, -⟩ := react_juega h
  rcases MultPlayer.react_efecto hmult with
    ⟨imagen, aleatorio, j, -, ht⟩ | ⟨-, j, -, ht⟩ | ⟨-, hq⟩
  · exact ht.guarda.forall_mem (Or.inl ⟨_, _, rfl⟩) fun l => Or.inr ⟨_, l, rfl⟩
  · exact ht.guarda.forall_mem (Or.inl ⟨_, _, rfl⟩) fun l => Or.inr ⟨_, l, rfl⟩
  · rw [hq.writes]
    exact List.forall_mem_nil _

theorem guarda_react (hF : DeCreacion F)
    (hdb : ∀ g j, db.jugadas g = some j → F g j)
    (hjuega : ∀ j, a.juega.jugada = some j → F a.juega.jugadaId j)
    (hdocs : ∀ docs, a.busca.espera = .onComplete docs →
      ∀ p ∈ docs, F p.1 p.2) {e : Suceso} (h : react db vista a e = some r) :
    Guarda F r := by
  cases e with
  | busca e => exact guarda_busca hF hdb hjuega hdocs h
  | juega e => exact guarda_juega hF hjuega hdocs h
  | cancelarJugada g =>
      obtain ⟨a', ws⟩ := r
      obtain ⟨rfl, rfl, -⟩ := react_cancelarJugada h
      refine ⟨fun w hw g j hj => ?_, hjuega, hdocs⟩
      rw [List.mem_singleton.mp hw] at hj
      cases hj

variable [DecidableEq ι] {s s' : Estado ι}

/-- A device moves. -/
theorem Copias.mueve (h : Copias F s) {i : ι} (hr : Guarda F r) :
    Copias F (programa.settle s i r) where
  server := h.server
  outbox := by
    intro n w hw
    rcases Program.mem_settle_outbox hw with hold | ⟨-, hnew⟩
    · exact h.outbox n w hold
    · exact hr.writes w hnew
  inbox := by
    intro n d hd
    rcases Program.mem_settle_inbox hd with hold | ⟨-, -, rfl⟩
    · exact h.inbox n d hold
    · exact h.server
  juega := by
    intro n
    by_cases hn : n = i
    · subst hn
      rw [Program.settle_client_self]
      exact hr.juega
    · rw [Program.settle_client_ne r hn]
      exact h.juega n
  docs := by
    intro n
    by_cases hn : n = i
    · subst hn
      rw [Program.settle_client_self]
      exact hr.docs
    · rw [Program.settle_client_ne r hn]
      exact h.docs n

/-- A step keeps the property of all copies, provided a game that arrives with
`add` has it. -/
theorem Copias.step (hF : DeCreacion F) (h : Copias F s) {p : Paso ι}
    (hadd : ∀ i g j ws, p = .arrive i → s.outbox i = .addJugada g j :: ws →
      F g j) (hstep : programa.step s p = some s') : Copias F s' := by
  cases p with
  | event i e =>
      obtain ⟨r, hr, rfl⟩ := Program.step_event hstep
      exact h.mueve (guarda_react hF h.server (h.juega i) (h.docs i) hr)
  | arrive i =>
      obtain ⟨w, ws, hbox, rfl⟩ := Program.step_arrive hstep
      have hserver := aplicar_copias hF h.server
        (h.outbox i w (mem_of_eq_cons hbox))
        fun g j hw => hadd i g j ws rfl (hw ▸ hbox)
      refine ⟨hserver, ?_, ?_, h.juega, h.docs⟩
      · exact fun n v hv => h.outbox n v (Program.mem_receive_outbox hbox hv)
      · intro n d hd
        rcases Program.mem_receive_inbox hd with hold | ⟨-, rfl⟩
        · exact h.inbox n d hold
        · exact hserver
  | confirm i =>
      obtain ⟨w, ok, rest, -, rfl⟩ := Program.step_confirm hstep
      have hlee : Copias F
          { s with acks := Function.update s.acks i rest } :=
        ⟨h.server, h.outbox, h.inbox, h.juega, h.docs⟩
      refine hlee.mueve ⟨List.forall_mem_nil _, h.juega i, ?_⟩
      simp only [programa, FindGame.ack_espera]
      exact h.docs i
  | deliver i =>
      obtain ⟨d, rest, hbox, rfl⟩ := Program.step_deliver hstep
      have hrest : rest ⊆ s.inbox i := subset_of_eq_cons hbox
      have hd := h.inbox i d (mem_of_eq_cons hbox)
      have hlee : Copias F
          { s with inbox := Function.update s.inbox i rest } :=
        ⟨h.server, h.outbox, forall_mem_update hrest h.inbox, h.juega, h.docs⟩
      refine hlee.mueve ?_
      simp only [programa]
      rcases MultPlayer.snapshot_cases (s.outbox i) d (s.client i).juega with
        hsame | ⟨-, -, j, m', hj, hsnap, hrec⟩
      · rw [hsame]
        exact ⟨List.forall_mem_nil _, h.juega i, h.docs i⟩
      · rw [hsnap]
        refine ⟨List.forall_mem_nil _, fun k hk => ?_, h.docs i⟩
        simp only at hk ⊢
        rw [hrec.jugada] at hk
        rw [hrec.afin.jugadaId, ← Option.some.inj hk]
        exact hd _ j hj
  | skip i =>
      obtain ⟨d, rest, hbox, rfl⟩ := Program.step_skip hstep
      have hrest : rest ⊆ s.inbox i := subset_of_eq_cons hbox
      exact ⟨h.server, h.outbox, forall_mem_update hrest h.inbox, h.juega,
        h.docs⟩

omit [DecidableEq ι] in
theorem issues_confirm (s : Estado ι) (i : ι) :
    programa.issues s (.confirm i) = [] := by
  simp only [Program.issues]
  split
  · rfl
  · rfl

omit [DecidableEq ι] in
theorem issues_deliver (s : Estado ι) (i : ι) :
    programa.issues s (.deliver i) = [] := by
  simp only [Program.issues]
  split
  · rfl
  next d rest hbox =>
    rcases MultPlayer.snapshot_cases (s.outbox i) d (s.client i).juega with
      hsame | ⟨-, -, j, m', -, hsnap, -⟩
    · simp only [programa, hsame]
    · simp only [programa, hsnap]

/-- A device stays with its user. -/
theorem step_uid {p : Paso ι} (hstep : programa.step s p = some s') (k : ι) :
    (s'.client k).busca.uid = (s.client k).busca.uid := by
  rcases Program.step_at hstep k with ⟨e, ⟨a', ws⟩, rfl, hr, rfl⟩ |
    ⟨w, ws, rfl, -, rfl⟩ | ⟨w, ok, rest, rfl, -, rfl⟩ |
    ⟨d, rest, rfl, -, rfl⟩ | hidle
  · have hreact : react s.server (programa.view s k) (s.client k) e =
      some (a', ws) := hr
    rw [Program.settle_client_self]
    cases e with
    | busca e =>
        obtain ⟨-, hbusca, -⟩ := react_busca hreact
        obtain ⟨-, t, ht, hcierra⟩ := FindGame.react_eq_some hbusca
        rw [(Prod.mk.inj hcierra).1]
        exact (FindGame.atiende_cambio ht).uid
    | juega e => exact congrArg FindGame.uid (react_juega hreact).2
    | cancelarJugada g =>
        obtain ⟨rfl, -⟩ := react_cancelarJugada hreact
        rfl
  · rfl
  · rw [Program.settle_client_self]
    exact FindGame.ack_uid _ w ok
  · rw [Program.settle_client_self]
    rfl
  · rw [hidle.client]

/-- Who has created a game is never forgotten. -/
theorem step_creador {p : Paso ι} (hstep : programa.step s p = some s')
    {g c : String} (h : s.server.creador g = some c) :
    s'.server.creador g = some c := by
  cases p with
  | event i e =>
      obtain ⟨r, -, rfl⟩ := Program.step_event hstep
      exact h
  | arrive i =>
      obtain ⟨w, ws, -, rfl⟩ := Program.step_arrive hstep
      exact BaseDatos.aplicar_creador_some h w
  | confirm i =>
      obtain ⟨w, ok, rest, -, rfl⟩ := Program.step_confirm hstep
      exact h
  | deliver i =>
      obtain ⟨d, rest, -, rfl⟩ := Program.step_deliver hstep
      exact h
  | skip i =>
      obtain ⟨d, rest, -, rfl⟩ := Program.step_skip hstep
      exact h

/-- Every copy is of a game that has been created. -/
def Creadas (s : Estado ι) : Prop :=
  Copias (fun g _ => s.server.creador g ≠ none) s

theorem Creadas.step (h : Creadas s) {p : Paso ι}
    (hstep : programa.step s p = some s') : Creadas s' := by
  have hle : ∀ g, s.server.creador g ≠ none → s'.server.creador g ≠ none := by
    intro g hg
    obtain ⟨c, hc⟩ := Option.ne_none_iff_exists'.mp hg
    rw [step_creador hstep hc]
    exact Option.some_ne_none c
  have hcopias : Copias (fun g _ => s'.server.creador g ≠ none) s :=
    Copias.mono h fun g _ => hle g
  refine hcopias.step (fun _ _ _ _ _ hg => hg) ?_ hstep
  rintro i g j ws rfl hbox
  obtain ⟨w, ws', hbox', rfl⟩ := Program.step_arrive hstep
  obtain ⟨rfl, -⟩ := List.cons_eq_cons.mp (hbox.symm.trans hbox')
  cases hg : s.server.creador g with
  | some c =>
      refine hle g ?_
      rw [hg]
      exact Option.some_ne_none c
  | none =>
      simp [programa, BaseDatos.aplicar, hg, BaseDatos.conCreador]

end Step

end Sala

end Tocate
