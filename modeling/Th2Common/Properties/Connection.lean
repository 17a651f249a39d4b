import Th2Common.Factory.Soundness

/-! One connection for everything a factory publishes. -/

namespace Th2

/-- In every run, with whatever the files hold and the library answers, all
publishes go over one connection, on channel 1 and after its handshake; one
handshake at most is completed, and the manager that is then stored stays. -/
theorem one_connection (d : Deployment) (calls : List FactoryCall) :
    (∃ conn, ∀ before frame result after, (({} : Process).run d calls).trace =
        before ++ .amqpBasicPublish frame result :: after →
      frame.conn = conn ∧ frame.channel = 1 ∧ Handshaken before conn) ∧
    handshakes (({} : Process).run d calls).trace ≤ 1 ∧
    ∀ cm, (({} : Process).run d calls).factory.rmqConnectionManager = some cm →
      ∀ more, (({} : Process).run d (calls ++ more)).factory.rmqConnectionManager = some cm := by
  have hsound := (Sound.invariant d calls).run.2
  refine ⟨?_, ?_, fun cm hcm more => (Process.grown_append d calls more).manager cm hcm⟩
  all_goals generalize ({} : Process).run d calls = s at hsound ⊢
  · rcases hcm : s.factory.rmqConnectionManager with _ | cm
    · refine ⟨0, fun before frame result after hτ => ?_⟩
      have hmem : (frame, result) ∈ amqpPublishes s.trace :=
        mem_amqpPublishes.mpr (hτ ▸ List.mem_append_right _ List.mem_cons_self)
      rw [(hsound.unconnected hcm).1] at hmem
      cases hmem
    · exact ⟨cm.val.conn, fun _ _ _ _ hτ => (hsound.connected cm hcm).publish hτ⟩
  · rcases hcm : s.factory.rmqConnectionManager with _ | cm
    · rw [(hsound.unconnected hcm).2]
      exact Nat.zero_le 1
    · rw [(hsound.connected cm hcm).once]

end Th2
