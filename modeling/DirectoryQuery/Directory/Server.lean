import DirectoryQuery.Directory
import DirectoryQuery.Text.Letter

/-! The server that a host names. Its scheme decides whether the connection is secure, and is not part
of the name that the server is addressed by. -/
namespace DirectoryQuery.Server

def plainScheme : List Char := "ldap://".toList
def secureScheme : List Char := "ldaps://".toList

/-- The secure scheme is recognised in any mixture of small and capital letters. -/
def isSecure (host : String) : Bool := secureScheme.isPrefixOf (Text.lower host.toList)

def address (host : String) : String :=
  String.ofList (Text.erase secureScheme (Text.erase plainScheme host.toList))

/-- A file without a name is no file. -/
def tlsFor (ignoresCertificate : Bool) (authorityFile : Option String) : Option Tls :=
  if ignoresCertificate then some ⟨.skipped, none⟩
  else
    match authorityFile with
    | none | some "" => none
    | some file => some ⟨.required, some file⟩

def ofHost (host : String) (ignoresCertificate : Bool) (authorityFile : Option String) : Server :=
  ⟨address host, isSecure host,
    if isSecure host then tlsFor ignoresCertificate authorityFile else none⟩

/-- The calls that set a server up. -/
def calls (server : Server) : List Call :=
  (server.tls.map Call.tls).toList ++ [.server server]

end DirectoryQuery.Server
