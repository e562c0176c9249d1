/-!
# The program's name and version
-/

namespace QueryLint.About

def programName : String := "embedsql"

def version : String := "1.0.0"

end QueryLint.About
