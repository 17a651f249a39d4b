import Th2Common.World

/-! `RabbitMQConfiguration`: reading the file that names the broker. -/

namespace Th2
open Text

structure RabbitMQConfiguration where
  host : Bytes := []
  vHost : Bytes := []
  port : Bytes := []
  username : Bytes := []
  password : Bytes := []
  subscriberName : Bytes := []
  exchangeName : Bytes := []
  connectionTimeout : Int32 := -1
  connectionCloseTimeout : Int32 := 10000
  maxRecoveryAttempts : Int32 := 5
  minConnectionRecoveryTimeout : Int32 := 10000
  maxConnectionRecoveryTimeout : Int32 := 60000
  prefetchCount : Int32 := 10
  deriving DecidableEq

namespace RabbitMQConfiguration

def placeholder : Bytes := "${RABBITMQ_PASS}"

/-- `if (j.contains(key)) j.at(key).get_to(field)` -/
def getIfContained {α : Type} (j : Json) (key : Bytes) (get : Json → Except Json.Error α)
    (field : α) : Except Fault α :=
  if j.contains key then getAt j key get else .ok field

def substitutePassword (getenv : Bytes → Option Bytes) (password : Bytes) : Except Fault Bytes :=
  if password = placeholder then
    match getenv "RABBITMQ_PASS" with
    | some value => .ok value
    | none => throwRuntimeError "${RABBITMQ_PASS} is set but environment variable is not."
  else .ok password

/-- `from_json`; a key `prefetchCount` is not read, `exchangeName` is read twice. -/
def fromJson (getenv : Bytes → Option Bytes) (j : Json) (cfg : RabbitMQConfiguration) :
    Except Fault RabbitMQConfiguration := do
  let cfg := { cfg with host := ← getAt j "host" Json.getString }
  let cfg := { cfg with vHost := ← getAt j "vHost" Json.getString }
  let cfg := { cfg with port := ← getAt j "port" Json.getString }
  let cfg := { cfg with username := ← getAt j "username" Json.getString }
  let cfg := { cfg with password := ← getAt j "password" Json.getString }
  let cfg := { cfg with password := ← substitutePassword getenv cfg.password }
  let cfg := { cfg with
    subscriberName := ← getIfContained j "subscriberName" Json.getString cfg.subscriberName }
  let cfg := { cfg with
    exchangeName := ← getIfContained j "exchangeName" Json.getString cfg.exchangeName }
  let cfg := { cfg with
    connectionTimeout := ← getIfContained j "connectionTimeout" Json.getInt32 cfg.connectionTimeout }
  let cfg := { cfg with
    connectionCloseTimeout :=
      ← getIfContained j "connectionCloseTimeout" Json.getInt32 cfg.connectionCloseTimeout }
  let cfg := { cfg with
    maxRecoveryAttempts :=
      ← getIfContained j "maxRecoveryAttempts" Json.getInt32 cfg.maxRecoveryAttempts }
  let cfg := { cfg with
    minConnectionRecoveryTimeout :=
      ← getIfContained j "minConnectionRecoveryTimeout" Json.getInt32 cfg.minConnectionRecoveryTimeout }
  let cfg := { cfg with
    exchangeName := ← getIfContained j "exchangeName" Json.getString cfg.exchangeName }
  let cfg := { cfg with
    maxConnectionRecoveryTimeout :=
      ← getIfContained j "maxConnectionRecoveryTimeout" Json.getInt32 cfg.maxConnectionRecoveryTimeout }
  return cfg

end RabbitMQConfiguration

def RabbitMQConfiguration.read (env : Environment) (cfgFile text : Bytes) :
    Prog Trace Fault RabbitMQConfiguration := do
  emit (.stdout (dumpFile cfgFile text))
  let js ← Prog.lift (ofJson (env.parse text))
  Prog.lift (fromJson env.getenv js.root {})

def rabbitMqJson (password : Bytes) : Json :=
  .object [(utf8 "host", .string "127.0.0.1"), (utf8 "vHost", .string "/"),
    (utf8 "port", .string "5672"), (utf8 "username", .string "rabbitmq"),
    (utf8 "password", .string password), (utf8 "subscriberName", .string "subscriber_name")]

def rabbitMqDocument (password : Bytes) : Document := ⟨rabbitMqJson password, rfl⟩

def rabbitMqText (password : Bytes) : Bytes :=
  utf8 "\x7b\n" ++
    utf8 "  \"host\": \"127.0.0.1\",\n" ++
    utf8 "  \"vHost\": \"/\",\n" ++
    utf8 "  \"port\": \"5672\",\n" ++
    utf8 "  \"username\": \"rabbitmq\",\n" ++
    utf8 "  \"password\": \"" ++ password ++ utf8 "\",\n" ++
    utf8 "  \"subscriberName\": \"subscriber_name\"\n" ++
    utf8 "\x7d\n"

def Environment.ofFiles (getenv : Bytes → Option Bytes) (files : List (Bytes × Document)) :
    Environment where
  getenv := getenv
  parse text :=
    match files.find? fun file => file.1 = text with
    | some file => .ok file.2
    | none => .error .parseError

end Th2
