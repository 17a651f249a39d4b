import Th2Common.Connection.Masking

/-! What two runs print that differ in the password. -/

namespace Th2
open Text RabbitMQConfiguration
open Prog (Alike Any Beside Related alike_bind alike_lift alike_pure related_bind related_of_eq)

/-- Read the configuration, connect, and publish; what throws after the configuration
has been read is caught. -/
def session (env : Environment) (amqp : Amqp) (cfgFile text : Bytes)
    (publishes : List (Bytes × Bytes × Bytes)) : Prog Trace Fault Unit := do
  let cfg ← RabbitMQConfiguration.read env cfgFile text
  let cm ← ConnectionManager.construct env.getenv (some cfg)
  let initialised ← Prog.onObject (Prog.caught (ConnectionManager.init amqp)) cm
  Prog.forEach publishes fun p => Prog.caught (initialised.2.basicPublish amqp p.1 p.2.1 p.2.2)

def output (τ : Trace) : Bytes × List (Level × Bytes) := (stdoutText τ, logMessages τ)

structure DifferInPassword (env env' : Environment) (text text' : Bytes) (js js' : Document)
    (password password' : Bytes) : Prop where
  parser : env'.parse = env.parse
  parse : env.parse text = .ok js
  parse' : env.parse text' = .ok js'
  getenv : ∀ name : Bytes, name ≠ "RABBITMQ_PASS" → env'.getenv name = env.getenv name
  find? : js.root.find? "password" = some (.string password)
  find?' : js'.root.find? "password" = some (.string password')
  others : ∀ key : Bytes, key ≠ "password" → js'.root.find? key = js.root.find? key
  supplied : (substitutePassword env'.getenv password').isOk =
    (substitutePassword env.getenv password).isOk

theorem stdoutText_masked (τ : Trace) : stdoutText (τ.map Observation.masked) = stdoutText τ := by
  unfold stdoutText
  rw [List.flatMap_map]
  congr 1
  funext e
  cases e <;> rfl

theorem logMessages_masked (τ : Trace) : logMessages (τ.map Observation.masked) = logMessages τ := by
  unfold logMessages
  rw [List.filterMap_map]
  congr 1
  funext e
  cases e <;> rfl

theorem Masked.output_eq_iff {a a' : Bytes} {τ τ' : Trace}
    (h : Masked (.stdout a) (.stdout a') τ τ') : output τ = output τ' ↔ a = a' := by
  obtain ⟨υ, υ', rfl, rfl, hυ⟩ := h
  have hstdout : stdoutText υ' = stdoutText υ := by
    rw [← stdoutText_masked υ', ← hυ, stdoutText_masked]
  have hlog : logMessages (.stdout a' :: υ') = logMessages (.stdout a :: υ) :=
    calc logMessages υ' = logMessages (υ'.map Observation.masked) := (logMessages_masked υ').symm
      _ = logMessages (υ.map Observation.masked) := by rw [hυ]
      _ = logMessages υ := logMessages_masked υ
  constructor
  · intro h
    have htext : a ++ stdoutText υ = a' ++ stdoutText υ' := congrArg Prod.fst h
    rw [hstdout] at htext
    exact List.append_cancel_right htext
  · rintro rfl
    change (a ++ stdoutText υ, _) = (a ++ stdoutText υ', _)
    rw [hstdout, hlog]

theorem substitutePassword_error {getenv : Bytes → Option Bytes} {password : Bytes} {e : Fault}
    (h : substitutePassword getenv password = .error e) :
    .error e = throwRuntimeError (α := Bytes)
      "${RABBITMQ_PASS} is set but environment variable is not." := by
  unfold substitutePassword at h
  split at h
  · split at h
    · cases h
    · exact h.symm
  · cases h

theorem related_substitutePassword {getenv getenv' : Bytes → Option Bytes} {password password' : Bytes}
    (h : (substitutePassword getenv' password').isOk = (substitutePassword getenv password).isOk) :
    Related Any (substitutePassword getenv password) (substitutePassword getenv' password') := by
  rcases hx : substitutePassword getenv password with e | a <;>
    rcases hx' : substitutePassword getenv' password' with e' | a' <;> rw [hx, hx'] at h
  · have he : (Except.error e : Except Fault Bytes) = .error e' :=
      (substitutePassword_error hx).trans (substitutePassword_error hx').symm
    injection he
  · cases h
  · cases h
  · trivial

namespace DifferInPassword
variable {env env' : Environment} {text text' : Bytes} {js js' : Document} {password password' : Bytes}

theorem getAt_eq {α : Type} (h : DifferInPassword env env' text text' js js' password password')
    (get : Json → Except Json.Error α) {key : Bytes} (hkey : key ≠ "password") :
    getAt js.root key get = getAt js'.root key get := by
  rw [getAt, getAt, Json.valueAt_congr h.find? h.find?' (h.others key hkey)]

theorem getIfContained_eq {α : Type}
    (h : DifferInPassword env env' text text' js js' password password')
    (get : Json → Except Json.Error α) (field : α) {key : Bytes} (hkey : key ≠ "password") :
    getIfContained js.root key get field = getIfContained js'.root key get field := by
  rw [getIfContained, getIfContained, h.getAt_eq get hkey, Json.contains, Json.contains,
    h.others key hkey]

theorem related_fromJson (h : DifferInPassword env env' text text' js js' password password') :
    Related SameConfiguration (fromJson env.getenv js.root {}) (fromJson env'.getenv js'.root {}) := by
  refine related_bind (related_of_eq (h.getAt_eq _ (by decide))) fun host _ hhost =>
    related_bind (related_of_eq (h.getAt_eq _ (by decide))) fun vHost _ hvHost =>
    related_bind (related_of_eq (h.getAt_eq _ (by decide))) fun port _ hport =>
    related_bind (related_of_eq (h.getAt_eq _ (by decide))) fun username _ husername => ?_
  subst hhost hvHost hport husername
  -- the one key at which the documents may differ
  refine related_bind (S := fun x x' => x = password ∧ x' = password') ?_ fun _ _ hpassword => ?_
  · rw [getAt, getAt, Json.valueAt_eq_ok.mpr h.find?, Json.valueAt_eq_ok.mpr h.find?']
    exact ⟨rfl, rfl⟩
  obtain ⟨rfl, rfl⟩ := hpassword
  refine related_bind (related_substitutePassword h.supplied) fun pass pass' _ =>
    related_bind (related_of_eq (h.getIfContained_eq _ _ (by decide))) fun subscriberName _ e₁ =>
    related_bind (related_of_eq (h.getIfContained_eq _ _ (by decide))) fun exchangeName _ e₂ => ?_
  subst e₁ e₂
  refine related_bind (related_of_eq (h.getIfContained_eq _ _ (by decide))) fun _ _ e₁ =>
    related_bind (related_of_eq (h.getIfContained_eq _ _ (by decide))) fun _ _ e₂ =>
    related_bind (related_of_eq (h.getIfContained_eq _ _ (by decide))) fun _ _ e₃ =>
    related_bind (related_of_eq (h.getIfContained_eq _ _ (by decide))) fun _ _ e₄ =>
    related_bind (related_of_eq (h.getIfContained_eq _ _ (by decide))) fun _ _ e₅ =>
    related_bind (related_of_eq (h.getIfContained_eq _ _ (by decide))) fun _ _ e₆ => ?_
  subst e₁ e₂ e₃ e₄ e₅ e₆
  rfl

theorem alike_construct (h : DifferInPassword env env' text text' js js' password password')
    {cfg cfg' : RabbitMQConfiguration} (hcfg : SameConfiguration cfg cfg') (first first' : Observation) :
    Alike (Masked first first') SameManager (ConnectionManager.construct env.getenv (some cfg))
      (ConnectionManager.construct env'.getenv (some cfg')) := by
  unfold ConnectionManager.construct
  rw [h.getenv _ (by decide)]
  exact alike_bind (ConnectionManager.alike_emit rfl) fun _ _ _ =>
    alike_bind (ConnectionManager.alike_emit rfl) fun _ _ _ =>
    alike_pure ⟨rfl, .some hcfg⟩

theorem masked_session (h : DifferInPassword env env' text text' js js' password password')
    (amqp : Amqp) (cfgFile : Bytes) (publishes : List (Bytes × Bytes × Bytes)) :
    Masked (.stdout (dumpFile cfgFile text)) (.stdout (dumpFile cfgFile text'))
      ((session env amqp cfgFile text publishes).exec []).2
      ((session env' amqp cfgFile text' publishes).exec []).2 := by
  -- the file is printed first, and nothing after that depends on its text
  have hdump (text : Bytes) : (emit (.stdout (dumpFile cfgFile text))).exec [] =
      (.ok (), [.stdout (dumpFile cfgFile text)]) := rfl
  unfold session RabbitMQConfiguration.read
  rw [Prog.exec_bind_bind_ok (hdump text), Prog.exec_bind_bind_ok (hdump text'), h.parser, h.parse,
    h.parse']
  refine (alike_bind (S := SameConfiguration) (T := Any) ?_ (fun cfg cfg' hcfg => ?_) _ _
    ⟨[], [], rfl, rfl, rfl⟩).2
  · refine alike_bind (S := fun x x' => x = js ∧ x' = js') (alike_lift ⟨rfl, rfl⟩) fun _ _ hjs => ?_
    obtain ⟨rfl, rfl⟩ := hjs
    exact alike_lift h.related_fromJson
  · refine alike_bind (h.alike_construct hcfg _ _) fun cm cm' hcm =>
      alike_bind (Prog.alike_onObject (Prog.alike_caught (ConnectionManager.alike_init amqp)) hcm)
        fun _ _ hinit => Prog.alike_forEach fun p _ => ?_
    exact Prog.alike_caught (ConnectionManager.alike_basicPublish amqp hinit.2 p.1 p.2.1 p.2.2)

end DifferInPassword

/-- The login is masked, and the file is not: two such runs print the same exactly when
they read the same text. -/
theorem outputs_agree_iff {env env' : Environment} {text text' : Bytes} {js js' : Document}
    {password password' : Bytes}
    (h : DifferInPassword env env' text text' js js' password password') (amqp : Amqp)
    (cfgFile : Bytes) (publishes : List (Bytes × Bytes × Bytes)) :
    output ((session env amqp cfgFile text publishes).exec []).2 =
      output ((session env' amqp cfgFile text' publishes).exec []).2 ↔ text = text' := by
  rw [(h.masked_session amqp cfgFile publishes).output_eq_iff]
  exact (dumpFile_injective cfgFile).eq_iff

theorem rabbitMqText_injective : Function.Injective rabbitMqText := by
  intro password password' h
  unfold rabbitMqText at h
  simp only [List.append_assoc] at h
  iterate 6 replace h := List.append_cancel_left h
  exact List.append_cancel_right h

def twoPasswords (getenv : Bytes → Option Bytes) (password password' : Bytes) : Environment :=
  .ofFiles getenv [(rabbitMqText password, rabbitMqDocument password),
    (rabbitMqText password', rabbitMqDocument password')]

theorem differInPassword_rabbitMq (getenv getenv' : Bytes → Option Bytes) (password password' : Bytes)
    (hgetenv : ∀ name : Bytes, name ≠ "RABBITMQ_PASS" → getenv' name = getenv name)
    (hsupplied : (substitutePassword getenv' password').isOk =
      (substitutePassword getenv password).isOk) :
    DifferInPassword (twoPasswords getenv password password') (twoPasswords getenv' password password')
      (rabbitMqText password) (rabbitMqText password') (rabbitMqDocument password)
      (rabbitMqDocument password') password password' where
  parser := rfl
  parse := by simp [twoPasswords, Environment.ofFiles]
  parse' := by
    by_cases h : rabbitMqText password = rabbitMqText password'
    · simp [twoPasswords, Environment.ofFiles, rabbitMqText_injective h]
    · simp [twoPasswords, Environment.ofFiles, h]
  getenv := hgetenv
  find? := rfl
  find?' := rfl
  others key hkey := by
    have hother : (key == utf8 "password") = false := beq_false_of_ne hkey
    simp only [rabbitMqDocument, rabbitMqJson, Json.find?, List.lookup_cons, hother]
  supplied := hsupplied

theorem not_outputs_agree_literal :
    DifferInPassword (twoPasswords (fun _ => none) "secret" "hidden")
      (twoPasswords (fun _ => none) "secret" "hidden") (rabbitMqText "secret") (rabbitMqText "hidden")
      (rabbitMqDocument "secret") (rabbitMqDocument "hidden") "secret" "hidden" ∧
    output ((session (twoPasswords (fun _ => none) "secret" "hidden") .accepting "cfg/rabbitMQ.json"
        (rabbitMqText "secret") []).exec []).2 ≠
      output ((session (twoPasswords (fun _ => none) "secret" "hidden") .accepting "cfg/rabbitMQ.json"
        (rabbitMqText "hidden") []).exec []).2 := by
  have hdiffer := differInPassword_rabbitMq (fun _ => none) (fun _ => none) "secret" "hidden"
    (fun _ _ => rfl) rfl
  refine ⟨hdiffer, ?_⟩
  rw [Ne, (hdiffer.masked_session _ _ _).output_eq_iff, (dumpFile_injective _).eq_iff,
    rabbitMqText_injective.eq_iff]
  decide

def passwordVariable (password name : Bytes) : Option Bytes :=
  if name = "RABBITMQ_PASS" then some password else none

theorem outputs_agree_iff_placeholder :
    output ((session (twoPasswords (passwordVariable "secret") placeholder placeholder) .accepting
        "cfg/rabbitMQ.json" (rabbitMqText placeholder) [("demo_exchange", "test_key", "1")]).exec []).2 =
      output ((session (twoPasswords (passwordVariable "hidden") placeholder placeholder) .accepting
        "cfg/rabbitMQ.json" (rabbitMqText placeholder)
        [("demo_exchange", "test_key", "1")]).exec []).2 := by
  have hvariable (password password' name : Bytes) (hname : name ≠ "RABBITMQ_PASS") :
      passwordVariable password' name = passwordVariable password name := by
    unfold passwordVariable
    rw [if_neg hname, if_neg hname]
  exact (outputs_agree_iff (differInPassword_rabbitMq _ _ _ _ (hvariable "secret" "hidden") rfl) .accepting
    "cfg/rabbitMQ.json" [("demo_exchange", "test_key", "1")]).mpr rfl

end Th2
