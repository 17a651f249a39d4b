import Th2Common.Connection.RabbitMQConfiguration

/-! What `from_json` reads of a document that names the broker, and documents
that such a configuration is written to. -/

namespace Th2
open Text

def GivenOr {α : Type} (j : Json) (key : Bytes) (get : Json → Except Json.Error α)
    (default value : α) : Prop :=
  match j.find? key with
  | some v => get v = .ok value
  | none => value = default

namespace GivenOr
variable {α : Type} {j : Json} {key : Bytes} {get : Json → Except Json.Error α} {default a b : α}

theorem same (h : GivenOr j key get default a) : GivenOr j key get a a := by
  unfold GivenOr at h ⊢
  generalize j.find? key = v at h ⊢
  cases v with
  | none => rfl
  | some v => exact h

theorem twice (ha : GivenOr j key get default a) (hb : GivenOr j key get a b) :
    GivenOr j key get default b := by
  unfold GivenOr at ha hb ⊢
  generalize j.find? key = v at ha hb ⊢
  cases v with
  | none => exact hb.trans ha
  | some v => exact hb

theorem unique (ha : GivenOr j key get default a) (hb : GivenOr j key get default b) : a = b := by
  unfold GivenOr at ha hb
  generalize j.find? key = v at ha hb
  cases v with
  | none => exact ha.trans hb.symm
  | some v => exact Except.ok.inj (ha.symm.trans hb)

end GivenOr

namespace RabbitMQConfiguration

/-- `cfg` holds what the members of `j` say. No member is read into `prefetchCount`. -/
structure ReadFrom (getenv : Bytes → Option Bytes) (j : Json) (cfg : RabbitMQConfiguration) :
    Prop where
  host : j.find? "host" = some (.string cfg.host)
  vHost : j.find? "vHost" = some (.string cfg.vHost)
  port : j.find? "port" = some (.string cfg.port)
  username : j.find? "username" = some (.string cfg.username)
  password : ∃ password, j.find? "password" = some (.string password) ∧
    substitutePassword getenv password = .ok cfg.password
  subscriberName : GivenOr j "subscriberName" Json.getString [] cfg.subscriberName
  exchangeName : GivenOr j "exchangeName" Json.getString [] cfg.exchangeName
  connectionTimeout : GivenOr j "connectionTimeout" Json.getInt32 (-1) cfg.connectionTimeout
  connectionCloseTimeout :
    GivenOr j "connectionCloseTimeout" Json.getInt32 10000 cfg.connectionCloseTimeout
  maxRecoveryAttempts : GivenOr j "maxRecoveryAttempts" Json.getInt32 5 cfg.maxRecoveryAttempts
  minConnectionRecoveryTimeout :
    GivenOr j "minConnectionRecoveryTimeout" Json.getInt32 10000 cfg.minConnectionRecoveryTimeout
  maxConnectionRecoveryTimeout :
    GivenOr j "maxConnectionRecoveryTimeout" Json.getInt32 60000 cfg.maxConnectionRecoveryTimeout
  prefetchCount : cfg.prefetchCount = 10

theorem getIfContained_eq_ok {α : Type} {j : Json} {key : Bytes}
    {get : Json → Except Json.Error α} {field value : α} :
    getIfContained j key get field = .ok value ↔ GivenOr j key get field value := by
  rcases hv : j.find? key with _ | v
  · simp [getIfContained, Json.contains, GivenOr, hv, eq_comm]
  · simp [getIfContained, Json.contains, GivenOr, hv, getAt_eq_ok_iff]

theorem isFatal_getIfContained {α : Type} (j : Json) (key : Bytes)
    (get : Json → Except Json.Error α) (field : α) :
    isFatal (getIfContained j key get field) = false := by
  unfold getIfContained
  split
  · exact isFatal_getAt j key get
  · rfl

theorem isFatal_substitutePassword (getenv : Bytes → Option Bytes) (password : Bytes) :
    isFatal (substitutePassword getenv password) = false := by
  unfold substitutePassword
  split
  · split <;> rfl
  · rfl

theorem isFatal_fromJson (getenv : Bytes → Option Bytes) (j : Json) (cfg : RabbitMQConfiguration) :
    isFatal (fromJson getenv j cfg) = false := by
  unfold fromJson
  iterate 5 refine isFatal_bind (isFatal_getAt _ _ _) fun _ => ?_
  refine isFatal_bind (isFatal_substitutePassword _ _) fun _ => ?_
  iterate 8 refine isFatal_bind (isFatal_getIfContained _ _ _ _) fun _ => ?_
  rfl

theorem fromJson_eq_ok {getenv : Bytes → Option Bytes} {j : Json} {cfg : RabbitMQConfiguration} :
    fromJson getenv j {} = .ok cfg ↔ ReadFrom getenv j cfg := by
  unfold fromJson
  simp only [bind_eq_ok, getAt_getString, getIfContained_eq_ok]
  constructor
  · rintro ⟨host, hhost, vHost, hvHost, port, hport, username, husername, given, hgiven,
      password, hpassword, subscriberName, hsubscriberName, exchangeName, hexchangeName,
      connectionTimeout, hconnectionTimeout, connectionCloseTimeout, hconnectionCloseTimeout,
      maxRecoveryAttempts, hmaxRecoveryAttempts, minTimeout, hminTimeout, again, hagain,
      maxTimeout, hmaxTimeout, h⟩
    cases h
    exact ⟨hhost, hvHost, hport, husername, ⟨given, hgiven, hpassword⟩, hsubscriberName,
      hexchangeName.twice hagain, hconnectionTimeout,
      hconnectionCloseTimeout, hmaxRecoveryAttempts, hminTimeout, hmaxTimeout, rfl⟩
  · intro h
    obtain ⟨given, hgiven, hpassword⟩ := h.password
    refine ⟨_, h.host, _, h.vHost, _, h.port, _, h.username, _, hgiven, _, hpassword,
      _, h.subscriberName, _, h.exchangeName, _, h.connectionTimeout, _, h.connectionCloseTimeout,
      _, h.maxRecoveryAttempts, _, h.minConnectionRecoveryTimeout, _, h.exchangeName.same,
      _, h.maxConnectionRecoveryTimeout, ?_⟩
    have hprefetch : (10 : Int32) = cfg.prefetchCount := h.prefetchCount.symm
    rw [hprefetch]
    rfl

end RabbitMQConfiguration

end Th2
