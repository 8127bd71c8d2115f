import Tocate.FindGame.Copies
import Tocate.FindGame.Exclusive

/-!
# One search screen among the devices

For the search screen of one device the rest of the system is what its replies,
its snapshots and the outcomes of its writes tell it.
-/

namespace Tocate

namespace Sala

open Cloud

variable {ι : Type*} [DecidableEq ι] {s s' : Estado ι} {a : Paso ι} {i : ι}

/-- The search screen of device `i` handles an event. -/
structure Atiende (s s' : Estado ι) (i : ι) (e : FindGame.Suceso)
    (t : FindGame.Turno) : Prop where
  viva : (s.client i).busca.caida = false
  nombrada : ∀ g, nombrada e = some g → s.server.creador g ≠ none
  atiende : FindGame.atiende s.server (s.client i).busca e = some t
  busca : (s'.client i).busca =
    { t.state with caida := t.state.caida || t.failed }
  outbox : s'.outbox i = s.outbox i ++ t.writes
  acks : s'.acks i = s.acks i

/-- The search screen of device `i` is told the outcome of write `w`. -/
structure Sabe (s s' : Estado ι) (i : ι) (w : Escritura) (ok : Bool) :
    Prop where
  acks : s.acks i = (w, ok) :: s'.acks i
  busca : (s'.client i).busca = (s.client i).busca.ack w ok
  outbox : s'.outbox i = s.outbox i

/-- Nothing happens to the search screen of device `i`. -/
structure Ajeno (s s' : Estado ι) (i : ι) : Prop where
  busca : (s'.client i).busca = (s.client i).busca
  outbox : ∀ w ∈ s'.outbox i, w ∈ s.outbox i ∨ w.Ajena
  pendientes : ∃ ws, pendientes s' i = pendientes s i ++ ws ∧
    ∀ w ∈ ws, w.Ajena

/-- What a step is for the search screen of device `i`. -/
theorem step_busca (hstep : programa.step s a = some s') (i : ι) :
    (∃ e t, a = .event i (.busca e) ∧ Atiende s s' i e t) ∨
    (∃ w ok, a = .confirm i ∧ Sabe s s' i w ok) ∨
    ((∀ e, a ≠ .event i (.busca e)) ∧ a ≠ .confirm i ∧ Ajeno s s' i) := by
  rcases Program.step_at hstep i with ⟨e, ⟨a', ws⟩, rfl, hr, rfl⟩ |
    ⟨w, ws, rfl, hbox, rfl⟩ | ⟨w, ok, rest, rfl, hacks, rfl⟩ |
    ⟨d, rest, rfl, hbox, rfl⟩ | hidle
  · have hreact : react s.server (programa.view s i) (s.client i) e =
      some (a', ws) := hr
    cases e with
    | busca e =>
        left
        obtain ⟨hnombrada, hbusca, -⟩ := react_busca hreact
        obtain ⟨hviva, t, ht, hcierra⟩ := FindGame.react_eq_some hbusca
        obtain ⟨hbusca', rfl⟩ := Prod.mk.inj hcierra
        refine ⟨e, t, rfl, hviva, hnombrada, ht, ?_, ?_, rfl⟩
        · rw [Program.settle_client_self]
          exact hbusca'
        · exact Program.settle_outbox_self _
    | juega e =>
        have hajenas : ∀ w ∈ ws, w.Ajena := by
          intro w hw
          rcases juega_escribe hreact w hw with ⟨g, j, rfl⟩ | ⟨x, l, rfl⟩
          · exact ⟨rfl, rfl, rfl⟩
          · exact ⟨rfl, rfl, rfl⟩
        refine Or.inr (Or.inr ⟨by simp, by simp, ?_, fun w hw => ?_, ws,
          pendientes_settle_self (a', ws), hajenas⟩)
        · rw [Program.settle_client_self]
          exact (react_juega hreact).2
        · exact (Program.mem_settle_outbox hw).imp_right
            fun hnew => hajenas w hnew.2
    | cancelarJugada g =>
        obtain ⟨rfl, rfl, -⟩ := react_cancelarJugada hreact
        have hajena : ∀ w ∈ [Escritura.rechazar g (s.client i).busca.uid],
            w.Ajena := fun w hw =>
          List.mem_singleton.mp hw ▸ ⟨rfl, rfl, rfl⟩
        refine Or.inr (Or.inr ⟨by simp, by simp, ?_, fun w hw => ?_, _,
          pendientes_settle_self _, hajena⟩)
        · rw [Program.settle_client_self]
        · exact (Program.mem_settle_outbox hw).imp_right
            fun hnew => hajena w hnew.2
  · refine Or.inr (Or.inr ⟨by simp, by simp, rfl, fun v hv => ?_, [], ?_,
      List.forall_mem_nil _⟩)
    · exact Or.inl (Program.mem_receive_outbox hbox hv)
    · rw [pendientes_receive hbox, List.append_nil]
  · refine Or.inr (Or.inl ⟨w, ok, rfl, ?_, ?_, ?_⟩)
    · simp only [Program.settle_acks, Function.update_self]
      exact hacks
    · rw [Program.settle_client_self]
      rfl
    · rw [Program.settle_outbox_self]
      exact List.append_nil _
  · have hnada : (programa.snapshot (s.outbox i) d (s.client i)).2 = [] := by
      rcases MultPlayer.snapshot_cases (s.outbox i) d (s.client i).juega with
        hsame | ⟨-, -, j, m', -, hsnap, -⟩
      · simp only [programa, hsame]
      · simp only [programa, hsnap]
    refine Or.inr (Or.inr ⟨by simp, by simp, ?_, fun v hv => ?_, [], ?_,
      List.forall_mem_nil _⟩)
    · rw [Program.settle_client_self]
      rfl
    · rw [Program.settle_outbox_self, hnada, List.append_nil] at hv
      exact Or.inl hv
    · rw [pendientes_settle_self, hnada]
      rfl
  · refine Or.inr (Or.inr ⟨fun e => hidle.event (.busca e), hidle.confirm,
      congrArg Aparato.busca hidle.client, fun v hv => ?_, [], ?_,
      List.forall_mem_nil _⟩)
    · exact Or.inl (hidle.outbox ▸ hv)
    · unfold pendientes
      rw [hidle.acks, hidle.outbox, List.append_nil]

omit [DecidableEq ι] in
theorem Atiende.pendientes {e : FindGame.Suceso} {t : FindGame.Turno}
    (h : Atiende s s' i e t) :
    pendientes s' i = pendientes s i ++ t.writes := by
  unfold Sala.pendientes
  rw [h.acks, h.outbox, List.append_assoc]

omit [DecidableEq ι] in
theorem Sabe.pendientes {w : Escritura} {ok : Bool} (h : Sabe s s' i w ok) :
    pendientes s i = w :: pendientes s' i := by
  unfold Sala.pendientes
  rw [h.acks, h.outbox]
  rfl

/-- A write in flight of device `i` was in flight before, is none of a search
screen's, or has just been issued by the search screen. -/
theorem step_outbox (hstep : programa.step s a = some s') (i : ι) :
    ∀ w ∈ s'.outbox i, w ∈ s.outbox i ∨ w.Ajena ∨
      ∃ e t, a = .event i (.busca e) ∧ Atiende s s' i e t ∧ w ∈ t.writes := by
  intro w hw
  rcases step_busca hstep i with ⟨e, t, rfl, hat⟩ | ⟨v, ok, rfl, hsabe⟩ |
    ⟨-, -, hajeno⟩
  · rw [hat.outbox] at hw
    exact (List.mem_append.mp hw).imp_right
      fun hnew => Or.inr ⟨e, t, rfl, hat, hnew⟩
  · rw [hsabe.outbox] at hw
    exact Or.inl hw
  · exact (hajeno.outbox w hw).imp_right Or.inl

/-! ## What has still to be confirmed -/

/-- Whatever happens to a device, its app is not down. -/
theorem react_viva {db vista : BaseDatos} {a : Aparato} {e : Suceso}
    {r : Aparato × List Escritura} (h : react db vista a e = some r) :
    a.busca.caida = false ∧ a.juega.caida = false := by
  obtain ⟨hviva, -⟩ := Option.ite_none_left_eq_some.mp h
  simpa using hviva

/-- A step brings no search screen back that is down, and only a write that
arrives has still to be confirmed. -/
theorem step_acks (hstep : programa.step s a = some s') (k : ι) :
    ((s'.client k).busca.caida = false → (s.client k).busca.caida = false) ∧
    ∀ p ∈ s'.acks k, p ∈ s.acks k ∨
      ∃ ws, a = .arrive k ∧ s.outbox k = p.1 :: ws ∧
        p.2 = (s.server.aplicar p.1).2 := by
  rcases Program.step_at hstep k with ⟨e, r, rfl, hreact, rfl⟩ |
    ⟨w, ws, rfl, hbox, rfl⟩ | ⟨w, ok, rest, rfl, hacks, rfl⟩ |
    ⟨d, rest, rfl, hbox, rfl⟩ | hidle
  · exact ⟨fun _ => (react_viva hreact).1, fun p hp => Or.inl hp⟩
  · refine ⟨fun h => h, fun p hp => ?_⟩
    rcases Program.mem_receive_acks hp with hold | ⟨-, rfl⟩
    · exact Or.inl hold
    · exact Or.inr ⟨ws, rfl, hbox, rfl⟩
  · refine ⟨fun h => ?_, fun p hp => Or.inl ?_⟩
    · rw [Program.settle_client_self] at h
      exact (FindGame.ack_caida _ w ok).symm.trans h
    · exact update_subset (subset_of_eq_cons hacks) k hp
  · refine ⟨fun h => ?_, fun p hp => Or.inl hp⟩
    rwa [Program.settle_client_self] at h
  · rw [hidle.client, hidle.acks]
    exact ⟨fun h => h, fun p hp => Or.inl hp⟩

/-- What has been granted is confirmed in its turn. -/
theorem mem_acks_step (hstep : programa.step s a = some s') {k : ι}
    {p : Escritura × Bool} (hp : p ∈ s.acks k) :
    p ∈ s'.acks k ∨ (a = .confirm k ∧ p ∈ (s.acks k).head?) := by
  rcases Program.step_at hstep k with ⟨e, r, rfl, -, rfl⟩ |
    ⟨w, ws, rfl, -, rfl⟩ | ⟨w, ok, rest, rfl, hacks, rfl⟩ |
    ⟨d, rest, rfl, -, rfl⟩ | hidle
  · exact Or.inl hp
  · left
    simp only [Program.receive, Function.update_self]
    exact List.mem_append_left _ hp
  · rw [hacks] at hp
    rcases List.mem_cons.mp hp with rfl | hmem
    · right
      rw [hacks]
      exact ⟨rfl, rfl⟩
    · left
      simp only [Program.settle_acks, Function.update_self]
      exact hmem
  · exact Or.inl hp
  · rw [hidle.acks]
    exact Or.inl hp

/-! ## Before anything has been created, joined or deleted -/

/-- As long as the screen waits for a reply before its first write, it has done
nothing. -/
def Intacta (f : FindGame) (pend : List Escritura) : Prop :=
  f.espera ≠ .nada → f.registros = [] ∧ f.handler = 0 ∧ f.jugadaId = "" ∧
    f.empezadas = [] ∧ ∀ w ∈ pend, w.Ajena

theorem Intacta.atiende {db : BaseDatos} {f : FindGame} {e : FindGame.Suceso}
    {t : FindGame.Turno} {pend : List Escritura} (h : Intacta f pend)
    (ht : FindGame.atiende db f e = some t) :
    Intacta t.state (pend ++ t.writes) := by
  intro hespera
  have hcambio := FindGame.atiende_cambio ht
  have hnada := FindGame.writes_eq_nil ht
  obtain ⟨f', ws, failed⟩ := t
  dsimp only at hcambio hnada hespera ⊢
  cases hcambio with
  | pLibre hantes =>
      rw [hnada rfl rfl rfl, List.append_nil]
      exact h (by simp [hantes])
  | null hantes =>
      rw [hnada rfl rfl rfl, List.append_nil]
      exact h (by simp [hantes])
  | responde docs hantes hdocs =>
      rw [hnada rfl rfl rfl, List.append_nil]
      exact h (by simp [hantes])
  | emite n g hreg =>
      rw [(h hespera).1] at hreg
      cases hreg
  | calla n snap eventos heventos hcalla =>
      rw [hnada rfl rfl rfl, List.append_nil]
      exact h hespera
  | avisa n j g eventos heventos hdos hreg hfull =>
      rw [(h hespera).1] at hreg
      cases hreg
  | run hhandler =>
      rw [f.run_espera] at hespera
      exact absurd (h hespera).2.1 (Nat.ne_of_gt hhandler)
  | onStart hantes =>
      rw [hnada rfl rfl rfl, List.append_nil]
      exact h hespera
  | onStop hiniciada =>
      have hantes : f.espera ≠ .nada := by
        intro heq
        rw [f.onStop_espera, heq] at hespera
        exact hespera rfl
      obtain ⟨hreg, hhandler, hid, hempezadas, hpend⟩ := h hantes
      have hborra : f.borra .onStop = none := if_pos (Or.inr hid)
      rw [hnada rfl rfl hborra, List.append_nil, f.onStop_handler,
        f.onStop_jugadaId, f.onStop_empezadas]
      refine ⟨?_, hhandler, hid, hempezadas, hpend⟩
      exact List.eq_nil_of_subset_nil (hreg ▸ f.onStop_registros)
  | onBackPressed hiniciada =>
      rw [hnada rfl rfl rfl, List.append_nil]
      exact h hespera
  | cearDynamickLink nueva hantes => exact absurd rfl hespera
  | Invita IDusuario nueva hantes => exact absurd rfl hespera
  | pinvDirecta partidaID hantes => exact absurd rfl hespera
  | linkReception deepLink g hantes hiniciada hg => exact absurd rfl hespera
  | noResponde hantes => exact absurd rfl hespera
  | onComplete docs nuevas hantes => exact absurd rfl hespera

theorem Intacta.step (h : Intacta (s.client i).busca (pendientes s i))
    (hstep : programa.step s a = some s') :
    Intacta (s'.client i).busca (pendientes s' i) := by
  rcases step_busca hstep i with ⟨e, t, rfl, hat⟩ | ⟨w, ok, rfl, hsabe⟩ |
    ⟨-, -, hajeno⟩
  · intro hespera
    rw [hat.busca] at hespera ⊢
    rw [hat.pendientes]
    exact h.atiende hat.atiende hespera
  · rw [hsabe.pendientes] at h
    intro hespera
    rw [hsabe.busca, FindGame.ack_espera] at hespera
    obtain ⟨hreg, hhandler, hid, hempezadas, hpend⟩ := h hespera
    have hsame := (FindGame.ack_confirma (s.client i).busca w ok).ajena
      (hpend w List.mem_cons_self)
    rw [hsabe.busca, hsame]
    exact ⟨hreg, hhandler, hid, hempezadas,
      fun v hv => hpend v (List.mem_cons_of_mem w hv)⟩
  · obtain ⟨ws, hws, hajenas⟩ := hajeno.pendientes
    rw [hajeno.busca, hws]
    intro hespera
    obtain ⟨hreg, hhandler, hid, hempezadas, hpend⟩ := h hespera
    exact ⟨hreg, hhandler, hid, hempezadas,
      List.forall_mem_append.mpr ⟨hpend, hajenas⟩⟩

end Sala

end Tocate
