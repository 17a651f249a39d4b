import Th2Common.Connection.Settings

/-! Reading a configuration of the broker from a document it was written to. -/

namespace Th2
open Text

def WrittenString (s : Bytes) (v : Json) : Prop := v = .string s

/-- The numbers that stand for `x`; a parser keeps those that are not negative as unsigned. -/
def WrittenInt32 (x : Int32) (v : Json) : Prop :=
  v = .numberInteger x.toInt64 ∨ ∃ n : UInt64, v = .numberUnsigned n ∧ (n.toNat : Int) = x.toInt

def StoredOr {α : Type} (j : Json) (key : Bytes) (written : α → Json → Prop)
    (default value : α) : Prop :=
  match j.find? key with
  | some v => written value v
  | none => value = default

namespace RabbitMQConfiguration

structure StoredIn (c : RabbitMQConfiguration) (j : Json) : Prop where
  host : j.find? "host" = some (.string c.host)
  vHost : j.find? "vHost" = some (.string c.vHost)
  port : j.find? "port" = some (.string c.port)
  username : j.find? "username" = some (.string c.username)
  password : j.find? "password" = some (.string c.password)
  subscriberName : StoredOr j "subscriberName" WrittenString [] c.subscriberName
  exchangeName : StoredOr j "exchangeName" WrittenString [] c.exchangeName
  connectionTimeout : StoredOr j "connectionTimeout" WrittenInt32 (-1) c.connectionTimeout
  connectionCloseTimeout :
    StoredOr j "connectionCloseTimeout" WrittenInt32 10000 c.connectionCloseTimeout
  maxRecoveryAttempts : StoredOr j "maxRecoveryAttempts" WrittenInt32 5 c.maxRecoveryAttempts
  minConnectionRecoveryTimeout :
    StoredOr j "minConnectionRecoveryTimeout" WrittenInt32 10000 c.minConnectionRecoveryTimeout
  maxConnectionRecoveryTimeout :
    StoredOr j "maxConnectionRecoveryTimeout" WrittenInt32 60000 c.maxConnectionRecoveryTimeout
  prefetchCount : StoredOr j "prefetchCount" WrittenInt32 10 c.prefetchCount

def members (c : RabbitMQConfiguration) : List (Bytes × Json) :=
  [(utf8 "host", .string c.host), (utf8 "vHost", .string c.vHost), (utf8 "port", .string c.port),
    (utf8 "username", .string c.username), (utf8 "password", .string c.password),
    (utf8 "subscriberName", .string c.subscriberName),
    (utf8 "exchangeName", .string c.exchangeName),
    (utf8 "connectionTimeout", .numberInteger c.connectionTimeout.toInt64),
    (utf8 "connectionCloseTimeout", .numberInteger c.connectionCloseTimeout.toInt64),
    (utf8 "maxRecoveryAttempts", .numberInteger c.maxRecoveryAttempts.toInt64),
    (utf8 "minConnectionRecoveryTimeout", .numberInteger c.minConnectionRecoveryTimeout.toInt64),
    (utf8 "maxConnectionRecoveryTimeout", .numberInteger c.maxConnectionRecoveryTimeout.toInt64),
    (utf8 "prefetchCount", .numberInteger c.prefetchCount.toInt64)]

def write (c : RabbitMQConfiguration) (keep : Bytes → Bool) : Json :=
  .object (c.members.filter fun m => keep m.1)

end RabbitMQConfiguration

theorem lookup_filter_key (keep : Bytes → Bool) (ms : List (Bytes × Json)) (key : Bytes) :
    (ms.filter fun m => keep m.1).lookup key = if keep key then ms.lookup key else none := by
  induction ms with
  | nil => rw [List.filter_nil, List.lookup_nil, ite_self]
  | cons m ms ih =>
    obtain ⟨k, v⟩ := m
    rw [List.filter_cons, List.lookup_cons]
    by_cases hk : key = k
    · subst hk
      rcases hkeep : keep key
      · simpa [hkeep] using ih
      · simp
    · have hne : (key == k) = false := beq_eq_false_iff_ne.mpr hk
      rcases hkeep : keep k
      · simpa [hne] using ih
      · simpa [hne, List.lookup_cons] using ih

namespace RabbitMQConfiguration

def MayKeep (c : RabbitMQConfiguration) (keep : Bytes → Bool) : Prop :=
  ∀ key, keep key = false →
    key ∉ [utf8 "host", utf8 "vHost", utf8 "port", utf8 "username", utf8 "password"] ∧
      c.members.lookup key = ({} : RabbitMQConfiguration).members.lookup key

theorem find?_write (c : RabbitMQConfiguration) (keep : Bytes → Bool) (key : Bytes) :
    (c.write keep).find? key = if keep key then c.members.lookup key else none :=
  lookup_filter_key keep c.members key

section
variable {c : RabbitMQConfiguration} {keep : Bytes → Bool} (h : c.MayKeep keep) {key : Bytes}
include h

theorem find?_write_required
    (hkey : key ∈ [utf8 "host", utf8 "vHost", utf8 "port", utf8 "username", utf8 "password"]) :
    (c.write keep).find? key = c.members.lookup key := by
  have hkeep : keep key = true := Bool.of_not_eq_false fun hout => (h key hout).1 hkey
  rw [find?_write, if_pos hkeep]

theorem storedOr_write {α : Type} (written : α → Json → Prop) {json : α → Json}
    (hjson : Function.Injective json) (hwritten : ∀ a, written a (json a)) {default value : α}
    (hvalue : c.members.lookup key = some (json value))
    (hdefault : ({} : RabbitMQConfiguration).members.lookup key = some (json default)) :
    StoredOr (c.write keep) key written default value := by
  unfold StoredOr
  rw [find?_write]
  rcases hkeep : keep key
  · have heq := (h key hkeep).2
    rw [hvalue, hdefault] at heq
    exact hjson (Option.some.inj heq)
  · rw [if_pos rfl, hvalue]
    exact hwritten value

theorem storedOr_write_string {default value : Bytes}
    (hvalue : c.members.lookup key = some (.string value))
    (hdefault : ({} : RabbitMQConfiguration).members.lookup key = some (.string default)) :
    StoredOr (c.write keep) key WrittenString default value :=
  storedOr_write h WrittenString (fun _ _ => Json.string.inj) (fun _ => rfl) hvalue hdefault

theorem storedOr_write_int32 {default value : Int32}
    (hvalue : c.members.lookup key = some (.numberInteger value.toInt64))
    (hdefault : ({} : RabbitMQConfiguration).members.lookup key =
      some (.numberInteger default.toInt64)) :
    StoredOr (c.write keep) key WrittenInt32 default value := by
  have hinj : Function.Injective fun x : Int32 => Json.numberInteger x.toInt64 := by
    intro x y hxy
    have hto := congrArg Int64.toInt32 (Json.numberInteger.inj hxy)
    rwa [Int32.toInt32_toInt64, Int32.toInt32_toInt64] at hto
  exact storedOr_write h WrittenInt32 hinj (fun _ => .inl rfl) hvalue hdefault

theorem storedIn_write : c.StoredIn (c.write keep) where
  host := find?_write_required h (by simp)
  vHost := find?_write_required h (by simp)
  port := find?_write_required h (by simp)
  username := find?_write_required h (by simp)
  password := find?_write_required h (by simp)
  subscriberName := storedOr_write_string h rfl rfl
  exchangeName := storedOr_write_string h rfl rfl
  connectionTimeout := storedOr_write_int32 h rfl rfl
  connectionCloseTimeout := storedOr_write_int32 h rfl rfl
  maxRecoveryAttempts := storedOr_write_int32 h rfl rfl
  minConnectionRecoveryTimeout := storedOr_write_int32 h rfl rfl
  maxConnectionRecoveryTimeout := storedOr_write_int32 h rfl rfl
  prefetchCount := storedOr_write_int32 h rfl rfl

end

end RabbitMQConfiguration

theorem toInt32_of_toNat_eq {n : UInt64} {x : Int32} (h : (n.toNat : Int) = x.toInt) :
    n.toUInt32.toInt32 = x := by
  have hlt : x.toInt < 2 ^ 31 := Int32.toInt_lt x
  have hbmod : n.toUInt32.toInt32.toInt = Int.bmod n.toUInt32.toNat (2 ^ 32) :=
    BitVec.toInt_eq_toNat_bmod n.toUInt32.toBitVec
  apply Int32.toInt.inj
  rw [hbmod, UInt64.toNat_toUInt32, ← h, Int.bmod_def]
  omega

theorem getInt32_of_written {x : Int32} {v : Json} (h : WrittenInt32 x v) : v.getInt32 = .ok x := by
  rcases h with rfl | ⟨n, rfl, hn⟩
  · exact congrArg Except.ok (Int32.toInt32_toInt64 x)
  · exact congrArg Except.ok (toInt32_of_toNat_eq hn)

theorem getString_of_written {s : Bytes} {v : Json} (h : WrittenString s v) : v.getString = .ok s :=
  Json.getString_eq_ok.mpr h

theorem StoredOr.given {α : Type} {j : Json} {key : Bytes} {written : α → Json → Prop}
    {get : Json → Except Json.Error α} {default value : α}
    (h : StoredOr j key written default value) (hget : ∀ {v}, written value v → get v = .ok value) :
    GivenOr j key get default value := by
  unfold StoredOr at h
  unfold GivenOr
  generalize j.find? key = v at h ⊢
  cases v with
  | none => exact h
  | some v => exact hget h

namespace RabbitMQConfiguration

def GivesBack (getenv : Bytes → Option Bytes) (c : RabbitMQConfiguration)
    (result : Except Fault RabbitMQConfiguration) : Prop :=
  if c.password = placeholder then
    match getenv "RABBITMQ_PASS" with
    | some value => result = .ok { c with password := value }
    | none => ∃ e, result = .error (.thrown e)
  else result = .ok c

variable {getenv : Bytes → Option Bytes} {c : RabbitMQConfiguration} {j : Json}

theorem StoredIn.readFrom (h : c.StoredIn j) (hprefetch : c.prefetchCount = 10) {password : Bytes}
    (hpassword : substitutePassword getenv c.password = .ok password) :
    ReadFrom getenv j { c with password := password } where
  host := h.host
  vHost := h.vHost
  port := h.port
  username := h.username
  password := ⟨c.password, h.password, hpassword⟩
  subscriberName := h.subscriberName.given getString_of_written
  exchangeName := h.exchangeName.given getString_of_written
  connectionTimeout := h.connectionTimeout.given getInt32_of_written
  connectionCloseTimeout := h.connectionCloseTimeout.given getInt32_of_written
  maxRecoveryAttempts := h.maxRecoveryAttempts.given getInt32_of_written
  minConnectionRecoveryTimeout := h.minConnectionRecoveryTimeout.given getInt32_of_written
  maxConnectionRecoveryTimeout := h.maxConnectionRecoveryTimeout.given getInt32_of_written
  prefetchCount := hprefetch

theorem StoredIn.throws (h : c.StoredIn j) {e : Fault}
    (hpassword : substitutePassword getenv c.password = .error e) :
    ∃ e, fromJson getenv j {} = .error (.thrown e) := by
  refine thrown_of_not_fatal (fun cfg hok => ?_) (isFatal_fromJson getenv j {})
  obtain ⟨password, hgiven, hok⟩ := (fromJson_eq_ok.mp hok).password
  rw [h.password] at hgiven
  cases hgiven
  rw [hpassword] at hok
  cases hok

/-- Reading undoes writing but for `prefetchCount`, which is not read, unless the
password cannot be substituted and nothing is read at all. -/
theorem givesBack_iff (getenv : Bytes → Option Bytes) (c : RabbitMQConfiguration) (j : Json)
    (h : c.StoredIn j) :
    c.GivesBack getenv (fromJson getenv j {}) ↔
      c.prefetchCount = 10 ∨ c.password = placeholder ∧ getenv "RABBITMQ_PASS" = none := by
  have hread {cfg : RabbitMQConfiguration} (hok : fromJson getenv j {} = .ok cfg) :
      cfg.prefetchCount = 10 := (fromJson_eq_ok.mp hok).prefetchCount
  unfold GivesBack
  by_cases hplace : c.password = placeholder
  · rw [if_pos hplace]
    rcases henv : getenv "RABBITMQ_PASS" with _ | value
    · have hpassword : substitutePassword getenv c.password =
          throwRuntimeError "${RABBITMQ_PASS} is set but environment variable is not." := by
        rw [substitutePassword, if_pos hplace, henv]
      exact ⟨fun _ => .inr ⟨hplace, rfl⟩, fun _ => h.throws hpassword⟩
    · have hpassword : substitutePassword getenv c.password = .ok value := by
        rw [substitutePassword, if_pos hplace, henv]
      refine ⟨fun hok => ?_, fun hcond => ?_⟩
      · have hok' : fromJson getenv j {} = .ok { c with password := value } := hok
        have hprefetch := hread hok'
        exact .inl hprefetch
      · have hprefetch := hcond.resolve_right fun hnone => Option.some_ne_none value hnone.2
        exact fromJson_eq_ok.mpr (h.readFrom hprefetch hpassword)
  · have hpassword : substitutePassword getenv c.password = .ok c.password := by
      rw [substitutePassword, if_neg hplace]
    rw [if_neg hplace]
    refine ⟨fun hok => .inl (hread hok), fun hcond => ?_⟩
    have hprefetch := hcond.resolve_right fun hnone => hplace hnone.1
    exact fromJson_eq_ok.mpr (h.readFrom hprefetch hpassword)

def sampleConfiguration (prefetchCount : Int32) : RabbitMQConfiguration where
  host := "127.0.0.1"
  vHost := "/"
  port := "5672"
  username := "rabbitmq"
  password := "rabbitmq"
  subscriberName := "subscriber_name"
  maxRecoveryAttempts := -3
  prefetchCount := prefetchCount

theorem mayKeep_sample (prefetchCount : Int32) :
    (sampleConfiguration prefetchCount).MayKeep fun key => key ≠ utf8 "exchangeName" := by
  intro key hkey
  obtain rfl : key = utf8 "exchangeName" := by simpa using hkey
  exact ⟨by decide, rfl⟩

theorem givesBack_iff_sample :
    (sampleConfiguration 10).GivesBack (fun _ => none) (fromJson (fun _ => none)
      ((sampleConfiguration 10).write fun key => key ≠ utf8 "exchangeName") {}) ↔
      (sampleConfiguration 10).prefetchCount = 10 ∨
        (sampleConfiguration 10).password = placeholder ∧ (none : Option Bytes) = none :=
  givesBack_iff (fun _ => none) (sampleConfiguration 10) _ (storedIn_write (mayKeep_sample 10))

theorem not_givesBack_prefetchCount :
    (sampleConfiguration 20).StoredIn ((sampleConfiguration 20).write fun key =>
      key ≠ utf8 "exchangeName") ∧
    ¬(sampleConfiguration 20).GivesBack (fun _ => none) (fromJson (fun _ => none)
      ((sampleConfiguration 20).write fun key => key ≠ utf8 "exchangeName") {}) := by
  refine ⟨storedIn_write (mayKeep_sample 20), fun h => ?_⟩
  unfold GivesBack at h
  rw [if_neg (by decide)] at h
  have hprefetch : (sampleConfiguration 20).prefetchCount = 10 := (fromJson_eq_ok.mp h).prefetchCount
  exact absurd hprefetch (by decide)

end RabbitMQConfiguration

end Th2
