import DbsMonitor.Credentials

/-!
# Monitored instances

The connection columns of the `instance` table and the four statements that write them. A row
counts its changes of connection data in `credential_version`; re-encrypting a password under
another key is not one.
-/

namespace DbsMonitor

structure TargetRow where
  id : InstanceId
  host : String
  port : ℕ
  databaseName : Option String
  username : String
  passwordCiphertext : List UInt8
  passwordKeyVersion : ℕ
  credentialVersion : ℕ
  port_range : 1 ≤ port ∧ port ≤ 65535
  deriving DecidableEq

structure DialConfig where
  host : String
  port : ℕ
  database : String
  user : String
  password : List UInt8
  deriving DecidableEq

def targetConnectionConfig (target : TargetRow) (password : List UInt8) : DialConfig :=
  { host := target.host, port := target.port % 2 ^ 16
    database := target.databaseName.getD "", user := target.username, password := password }

def connectionConfig {Key : Type} (keyring : Keyring Key) (target : TargetRow) :
    Option DialConfig :=
  (keyring.decrypt target.passwordCiphertext target.passwordKeyVersion
    (credentialAAD target.id)).map (targetConnectionConfig target)

structure InstanceState where
  row : TargetRow
  password : List UInt8

def InstanceState.connectionData (state : InstanceState) : DialConfig :=
  { host := state.row.host, port := state.row.port
    database := state.row.databaseName.getD "", user := state.row.username
    password := state.password }

inductive InstanceEdit
  | create (host : String) (port : {p : ℕ // 1 ≤ p ∧ p ≤ 65535}) (databaseName : Option String)
      (username : String) (password : List UInt8) (keyVersion : ℕ) (nonce : Nonce)
  | updateMetadata (host : String) (port : {p : ℕ // 1 ≤ p ∧ p ≤ 65535})
      (databaseName : Option String)
  | updateCredential (username : String) (password : List UInt8) (keyVersion : ℕ) (nonce : Nonce)
  | rotateKey (keyVersion : ℕ) (nonce : Nonce)

section Edits

variable {Key : Type} (keyring : Keyring Key)

def createInstance (id : InstanceId) (host : String) (port : {p : ℕ // 1 ≤ p ∧ p ≤ 65535})
    (databaseName : Option String) (username : String) (password : List UInt8) (keyVersion : ℕ)
    (nonce : Nonce) : Option InstanceState :=
  (keyring.encrypt keyVersion nonce password (credentialAAD id)).map fun ciphertext =>
    { row :=
        { id := id, host := host, port := port, databaseName := databaseName
          username := username, passwordCiphertext := ciphertext
          passwordKeyVersion := keyVersion, credentialVersion := 1, port_range := port.2 }
      password := password }

def updateInstanceMetadata (state : InstanceState) (host : String)
    (port : {p : ℕ // 1 ≤ p ∧ p ≤ 65535}) (databaseName : Option String) : InstanceState :=
  let row := state.row
  { state with row :=
      { row with
        host := host, port := port, databaseName := databaseName, port_range := port.2
        credentialVersion := row.credentialVersion
          + if row.host ≠ host ∨ row.port ≠ port ∨ row.databaseName ≠ databaseName then 1 else 0 } }

def updateInstanceCredential (state : InstanceState) (username : String) (password : List UInt8)
    (keyVersion : ℕ) (nonce : Nonce) : Option InstanceState :=
  (keyring.encrypt keyVersion nonce password (credentialAAD state.row.id)).map fun ciphertext =>
    { row :=
        { state.row with
          username := username, passwordCiphertext := ciphertext
          passwordKeyVersion := keyVersion
          credentialVersion := state.row.credentialVersion + 1 }
      password := password }

/-- One row of `ReencryptCredentials`: the password that opens is sealed under the new key. -/
def reencryptCredential (state : InstanceState) (keyVersion : ℕ) (nonce : Nonce) :
    Option InstanceState :=
  (keyring.decrypt state.row.passwordCiphertext state.row.passwordKeyVersion
    (credentialAAD state.row.id)).bind fun password =>
    (keyring.encrypt keyVersion nonce password (credentialAAD state.row.id)).map fun ciphertext =>
      { state with row :=
          { state.row with passwordCiphertext := ciphertext, passwordKeyVersion := keyVersion } }

/-- The committed states of one instance, newest first. An identifier is created once. -/
def applyEdit (id : InstanceId) (states : List InstanceState) :
    InstanceEdit → Option InstanceState
  | .create host port databaseName username password keyVersion nonce =>
    match states with
    | [] => createInstance keyring id host port databaseName username password keyVersion nonce
    | _ :: _ => none
  | .updateMetadata host port databaseName =>
    states.head?.map fun state => updateInstanceMetadata state host port databaseName
  | .updateCredential username password keyVersion nonce =>
    states.head?.bind fun state =>
      updateInstanceCredential keyring state username password keyVersion nonce
  | .rotateKey keyVersion nonce =>
    states.head?.bind fun state => reencryptCredential keyring state keyVersion nonce

end Edits

def orders : TargetRow :=
  { id := "6f1c2a4e-0b57-4d38-9e21-3c5d7a9b1f02", host := "10.0.4.17", port := 5432
    databaseName := some "orders", username := "dbs_monitor", passwordCiphertext := []
    passwordKeyVersion := 1, credentialVersion := 1, port_range := by decide }

end DbsMonitor
