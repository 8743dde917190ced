import ExchangeGrid.Watch.Arguments

namespace ExchangeGrid
namespace Watch

/-!
# Help on the command line

What the watching program says of itself: its options with what they are for, and its version.
The help shows the node name that the environment gives, but never the password.
-/

def programName : String := "px-session-watch"

def versionText : String := programName ++ " 0.1.0\n"

def usageText : String := "Usage: " ++ programName ++ " [OPTIONS]\n"

/-- An option as the help shows it: how it is written, and what it is for. -/
structure OptionHelp where
  letter : Option Char
  name : String
  value : Option String
  purpose : String
  deriving DecidableEq, Repr

def OptionHelp.text (option : OptionHelp) : String :=
  let letter := match option.letter with
    | some letter => "  -" ++ letter.toString ++ ", "
    | none => "      "
  let value := match option.value with
    | some value => " <" ++ value ++ ">"
    | none => ""
  letter ++ "--" ++ option.name ++ value ++ "\n          " ++ option.purpose ++ "\n"

def optionHelp (environment : String → Option String) : List OptionHelp :=
  let nodeName := (environment "PXGRID_NODE_NAME").getD ""
  [⟨some 'a', "host", some "HOSTS", "Control host as `host[:port]`; repeat for failover"⟩,
    ⟨some 'n', "node-name", some "NODE_NAME",
      "This consumer's node name [env: PXGRID_NODE_NAME=" ++ nodeName ++ "]"⟩,
    ⟨some 'w', "password", some "PASSWORD", "Account password. Without one (and without a " ++
      "client cert) a new account is created [env: PXGRID_PASSWORD]"⟩,
    ⟨some 'd', "description", some "DESCRIPTION", "Description sent with AccountActivate"⟩,
    ⟨some 'c', "cert", some "CERT", "Client certificate chain (PEM)"⟩,
    ⟨some 'k', "key", some "KEY", "Client private key (PEM)"⟩,
    ⟨some 's', "ca-file", some "CA_FILES",
      "CA bundle to trust instead of the system roots; repeatable"⟩,
    ⟨none, "dns", some "DNS", "DNS server to resolve node names with"⟩,
    ⟨none, "insecure", none, "Skip server certificate verification"⟩,
    ⟨none, "activate-interval", some "ACTIVATE_INTERVAL",
      "Seconds between AccountActivate polls while pending [default: 60]"⟩,
    ⟨some 'h', "help", none, "Print help"⟩,
    ⟨some 'V', "version", none, "Print version"⟩]

def helpText (environment : String → Option String) : String :=
  "Watch pxGrid session and group topics\n\n" ++ usageText ++ "\nOptions:\n" ++
    String.join ((optionHelp environment).map OptionHelp.text)

def refusalText : String :=
  "error: the command line is not taken\n\n" ++ usageText ++
    "\nFor more information, try '--help'.\n"

end Watch
end ExchangeGrid
