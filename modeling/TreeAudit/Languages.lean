import TreeAudit.Java.Language
import TreeAudit.Python.Language
import TreeAudit.Registry

-- The languages that are built in.
namespace TreeAudit

def Registry.builtIn : Registry := ⟨[Java.language, Python.language]⟩

end TreeAudit
