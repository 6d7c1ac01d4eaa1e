import BlobTree.Settings.Basic
import BlobTree.Settings.Error

/-!
# BlobTree.Cloud.Credentials

How a client proves who it is to a remote store: a connection string, an account with its key, or
an account's address. Settings may hold several; the first of these that is complete counts.
-/

namespace BlobTree

inductive Credentials where
  | connectionString (text : String)
  | sharedKey (accountName accountKey : String) (realm : Option String)
  | accountUrl (url : String)
  deriving DecidableEq, Inhabited

namespace Credentials

/-- The text of a field that is set and not empty. -/
def given (field : Option String) : Option String :=
  field.filter (!·.isEmpty)

/-- The credentials among the fields of an account, of which the realm may be absent. -/
def ofFields (connectionString accountName accountKey realm accountUrl : Option String) :
    Except SettingsError Credentials :=
  match given connectionString, given accountName, given accountKey, given accountUrl with
  | some text, _, _, _ => .ok (.connectionString text)
  | none, some name, some key, _ => .ok (.sharedKey name key realm)
  | none, _, _, some url => .ok (.accountUrl url)
  | none, _, _, none => .error .noCredentials

/-- The realm of accounts that name none. -/
def defaultRealm : String := "core.windows.net"

def serviceUrl (accountName : String) (realm : Option String) : String :=
  "https://" ++ accountName ++ ".blob." ++ (given realm).getD defaultRealm

end Credentials

def Settings.credentials (s : Settings) : Except SettingsError Credentials :=
  match s.account with
  | none => .error .noCredentials
  | some a =>
    Credentials.ofFields a.connectionString a.accountName a.accountKey (some a.realm) a.accountUrl

end BlobTree
