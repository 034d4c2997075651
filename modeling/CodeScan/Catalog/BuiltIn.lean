import CodeScan.Catalog.Build

/-!
# The built-in catalog

Patterns are case sensitive.  They are tried on one line at a time, and the order of the catalog
decides the order of the findings on one line.  The gaps between the parts of a pattern are bounded,
so that a search stays linear in the length of the line.
-/

namespace CodeScan

/-- The definition of a built-in rule. -/
structure Definition where
  id : String
  pattern : String
  kind : String
  category : Category
  description : String
  explanation : String
  mitigation : String
  safeCode : String

/-- A definition as the fields it gives. -/
def Definition.fields (d : Definition) : Fields :=
  let text (s : String) : FieldValue := .plain (.string s)
  [("id", text d.id), ("pattern", text d.pattern), ("vulnerability_type", text d.kind),
   ("category", .category d.category), ("description", text d.description),
   ("explanation", text d.explanation), ("mitigation", text d.mitigation),
   ("safe_code", text d.safeCode)]

namespace Catalog

/-- Dynamic Code Execution: use of eval() function allows arbitrary code execution. -/
def dynamicCodeExecution : Definition where
  id := "dynamic-code-execution"
  pattern :=
    "(?<![\\w.$])(?:eval|exec)\\s*\\(" ++
    "|\\bnew\\s+Function\\s*\\(" ++
    "|\\bset(?:Timeout|Interval)\\s*\\(\\s*[\\\"'`]"
  kind := "Dynamic Code Execution"
  category := .codeInjection
  description := "Use of eval() function allows arbitrary code execution"
  explanation :=
    "Dynamic code execution vulnerabilities occur when user input is directly executed as " ++
    "code."
  mitigation := "Avoid using eval(). Use JSON.parse() for JSON data or implement proper parsing."
  safeCode := "JSON.parse(userInput); // For JSON data"

/-- Cross-Site Scripting (XSS): dynamic HTML generation without proper sanitization. -/
def crossSiteScripting : Definition where
  id := "cross-site-scripting"
  pattern :=
    "\\.(?:innerHTML|outerHTML)\\s*=(?!=)" ++
    "|\\bdocument\\.write(?:ln)?\\s*\\(" ++
    "|\\bdangerouslySetInnerHTML\\b" ++
    "|\\.insertAdjacentHTML\\s*\\("
  kind := "Cross-Site Scripting (XSS)"
  category := .crossSiteScripting
  description := "Dynamic HTML generation without proper sanitization"
  explanation := "XSS vulnerabilities allow attackers to inject malicious scripts into web pages."
  mitigation := "Use textContent instead of innerHTML or properly sanitize user input."
  safeCode := "element.textContent = userInput;"

/-- Insecure Randomness: Math.random() is not cryptographically secure. -/
def insecureRandomness : Definition where
  id := "insecure-randomness"
  pattern :=
    "\\bMath\\.random\\s*\\(" ++
    "|\\brandom\\.(?:random|randint|randrange|choice|getrandbits)\\s*\\("
  kind := "Insecure Randomness"
  category := .cryptography
  description := "Math.random() is not cryptographically secure"
  explanation :=
    "Using predictable random number generators for security purposes can lead to " ++
    "cryptographic weaknesses."
  mitigation := "Use crypto.randomBytes() or crypto.getRandomValues() for security purposes."
  safeCode :=
    "const crypto = require(\"crypto\");\nconst token = " ++
    "crypto.randomBytes(32).toString(\"hex\");"

/-- Hardcoded Credentials: hardcoded passwords found in source code. -/
def hardcodedCredentials : Definition where
  id := "hardcoded-credentials"
  pattern :=
    "(?:password|passwd|pwd|secret|api_?key|apiKey|access_?token|auth_?token|PASSWORD|PASSWD" ++
    "|SECRET|API_KEY|ACCESS_TOKEN)[\\\"']?\\s*[:=]\\s*[\\\"'][^\\\"']\x7b1,200\x7d[\\\"']"
  kind := "Hardcoded Credentials"
  category := .sensitiveData
  description := "Hardcoded passwords found in source code"
  explanation := "Hardcoded credentials in source code pose significant security risks."
  mitigation := "Use environment variables or secure configuration files for credentials."
  safeCode := "password = os.environ.get(\"PASSWORD\")"

/-- SQL Injection: a query built by concatenating or interpolating values into its text. -/
def sqlInjection : Definition where
  id := "sql-injection"
  pattern :=
    "[\\\"'`]\\s*(?:SELECT|INSERT|UPDATE|DELETE|DROP)\\b[^\\\"'`]\x7b0,500\x7d" ++
    "[\\\"'`]\\s*(?:\\+|%\\s*[\\w(])" ++
    "|\\bf[\\\"'](?:SELECT|INSERT|UPDATE|DELETE|DROP)\\b[^\\\"']\x7b0,500\x7d\\\x7b" ++
    "|`(?:SELECT|INSERT|UPDATE|DELETE|DROP)\\b[^`]\x7b0,500\x7d\\$\\\x7b" ++
    "|[\\\"'](?:SELECT|INSERT|UPDATE|DELETE|DROP)\\b[^\\\"']\x7b0,500\x7d" ++
    "[\\\"']\\s*\\.format\\s*\\("
  kind := "SQL Injection"
  category := .codeInjection
  description := "SQL query built by concatenating or interpolating values into the query string"
  explanation :=
    "When user-controlled values are spliced into SQL text, an attacker can change the " ++
    "structure of the query and read or modify arbitrary data."
  mitigation := "Use parameterized queries or an ORM. Never build SQL from string concatenation."
  safeCode := "cursor.execute(\"SELECT * FROM users WHERE id = %s\", (user_id,))"

/-- Command Injection: a command run through a shell that may receive untrusted input. -/
def commandInjection : Definition where
  id := "command-injection"
  pattern :=
    "\\bos\\.(?:system|popen)\\s*\\(" ++
    "|\\bsubprocess\\.\\w+\\s*\\([^)]\x7b0,200\x7dshell\\s*=\\s*True" ++
    "|\\bchild_process\\.exec(?:Sync)?\\s*\\(" ++
    "|\\bexecSync\\s*\\(" ++
    "|\\bshell_exec\\s*\\("
  kind := "Command Injection"
  category := .codeInjection
  description := "Shell command executed through an interpreter that may receive untrusted input"
  explanation :=
    "Passing strings to a shell lets metacharacters such as ; | and $() in user input run " ++
    "additional commands on the host."
  mitigation :=
    "Call the program directly with an argument list and shell=False, and validate every " ++
    "argument."
  safeCode := "subprocess.run([\"ls\", \"-l\", directory], check=True)"

/-- Path Traversal: file path built from request data or relative parent segments. -/
def pathTraversal : Definition where
  id := "path-traversal"
  pattern :=
    "\\b(?:readFile(?:Sync)?|createReadStream|sendFile|open|path\\.join|os\\.path\\.join)" ++
    "\\s*\\([^)]\x7b0,200\x7d(?:req\\.(?:params|query|body)|request\\.(?:args|form|GET|POST" ++
    "|files)|\\.\\./)"
  kind := "Path Traversal"
  category := .inputValidation
  description := "File path built from request data or relative parent segments"
  explanation :=
    "Sequences like ../ in a user-supplied path let an attacker read or overwrite files " ++
    "outside the intended directory."
  mitigation :=
    "Resolve the path against a fixed base directory and reject it unless the result stays " ++
    "inside that directory."
  safeCode :=
    "safe = (BASE_DIR / name).resolve()\nif not safe.is_relative_to(BASE_DIR):\n    raise " ++
    "ValueError(\"invalid path\")"

/-- Missing Input Validation: request or console input used directly without validation. -/
def missingInputValidation : Definition where
  id := "missing-input-validation"
  pattern :=
    "\\breq\\.(?:body|query|params)\\.\\w+" ++
    "|\\brequest\\.(?:args|form|GET|POST)\\[" ++
    "|\\brequest\\.(?:args|form)\\.get\\s*\\(" ++
    "|(?<![\\w.])(?:raw_)?input\\s*\\("
  kind := "Missing Input Validation"
  category := .inputValidation
  description := "Request or console input used directly without validation"
  explanation :=
    "Input that is never checked for type, length or format is the entry point for most " ++
    "injection attacks."
  mitigation := "Validate input against a schema (pydantic, zod, joi) before using it."
  safeCode := "payload = UserCreate.model_validate(request.get_json())"

/-- Unvalidated Redirect: redirect target taken from a variable or request parameter. -/
def unvalidatedRedirect : Definition where
  id := "unvalidated-redirect"
  pattern :=
    "\\b(?:res\\.)?redirect\\s*\\(\\s*(?:req\\.|request\\.)" ++
    "|\\b(?:window\\.)?location(?:\\.href)?\\s*=(?!=)\\s*(?![\\\"'`/\\s])"
  kind := "Unvalidated Redirect"
  category := .inputValidation
  description := "Redirect target taken from a variable or request parameter"
  explanation :=
    "Open redirects let attackers send users to malicious sites through a trusted domain, " ++
    "which is commonly abused for phishing."
  mitigation := "Redirect only to relative paths or to destinations on an explicit allowlist."
  safeCode :=
    "const target = ALLOWED_REDIRECTS.includes(next) ? next : \"/\";\nres.redirect(target);"

/-- Insecure File Operations: world-writable permissions or predictable temporary file names. -/
def insecureFileOperations : Definition where
  id := "insecure-file-operations"
  pattern :=
    "\\bchmod(?:Sync)?\\s*\\([^)]\x7b0,200\x7d\\b0?o?777\\b" ++
    "|\\bmktemp\\s*\\(" ++
    "|\\bumask\\s*\\(\\s*0o?0*\\s*\\)"
  kind := "Insecure File Operations"
  category := .fileSystem
  description := "World-writable permissions or predictable temporary file names"
  explanation :=
    "Files created with permissive modes or racy temporary names can be read or replaced by " ++
    "other users on the same machine."
  mitigation :=
    "Use restrictive file modes (0o600/0o700) and tempfile.mkstemp() or NamedTemporaryFile()."
  safeCode := "fd, path = tempfile.mkstemp()\nos.chmod(path, 0o600)"

/-- Insecure Deserialization: deserializer that can instantiate arbitrary objects. -/
def insecureDeserialization : Definition where
  id := "insecure-deserialization"
  pattern :=
    "\\b(?:c?[Pp]ickle|marshal)\\.loads?\\s*\\(" ++
    "|\\byaml\\.load\\s*\\((?![^)]\x7b0,200\x7dSafeLoader)" ++
    "|\\bunserialize\\s*\\("
  kind := "Insecure Deserialization"
  category := .codeInjection
  description := "Deserializer that can instantiate arbitrary objects"
  explanation :=
    "Formats such as pickle and unsafe YAML can run code while loading, so deserializing " ++
    "untrusted data is equivalent to executing it."
  mitigation := "Use a data-only format such as JSON, or yaml.safe_load() for YAML."
  safeCode := "data = yaml.safe_load(stream)"

/-- Authentication Bypass: password compared against a literal or authentication flag forced on. -/
def authenticationBypass : Definition where
  id := "authentication-bypass"
  pattern :=
    "(?:password|passwd|pwd|PASSWORD)\\s*===?\\s*[\\\"'][^\\\"']\x7b0,200\x7d[\\\"']" ++
    "|\\b(?:isAdmin|is_admin|isAuthenticated|is_authenticated)\\s*=\\s*(?:true|True)\\b"
  kind := "Authentication Bypass"
  category := .authentication
  description := "Password compared against a literal or authentication flag forced on"
  explanation :=
    "Hardcoded comparisons and forced flags create a backdoor that works for anyone who " ++
    "reads the source."
  mitigation :=
    "Verify credentials against stored salted hashes and derive privileges from the session."
  safeCode := "if bcrypt.checkpw(password.encode(), user.password_hash):"

/-- Insecure Token Verification: JWT decoded without verifying its signature. -/
def insecureTokenVerification : Definition where
  id := "insecure-token-verification"
  pattern :=
    "\\bjwt\\.decode\\s*\\([^)]\x7b0,200\x7dverify\\s*=\\s*False" ++
    "|[\\\"']verify_signature[\\\"']\\s*:\\s*False" ++
    "|\\balgorithms?\\s*[:=]\\s*\\[?\\s*[\\\"']none[\\\"']" ++
    "|\\bjwt\\.decode\\s*\\(\\s*\\w+\\s*\\)"
  kind := "Insecure Token Verification"
  category := .authentication
  description := "JWT decoded without verifying its signature"
  explanation :=
    "An unverified token can be forged by anyone, which bypasses authentication entirely."
  mitigation := "Always verify the signature with a fixed list of accepted algorithms."
  safeCode := "claims = jwt.decode(token, SECRET_KEY, algorithms=[\"HS256\"])"

/-- Weak Cryptography: broken hash function or cipher mode in use. -/
def weakCryptography : Definition where
  id := "weak-cryptography"
  pattern :=
    "\\bhashlib\\.(?:md5|sha1)\\s*\\(" ++
    "|\\bcreateHash\\s*\\(\\s*[\\\"'](?:md5|sha1|MD5|SHA1)[\\\"']" ++
    "|\\b(?:MD5|SHA|DES|ARC4)\\.new\\s*\\(" ++
    "|\\bAES\\.MODE_ECB\\b" ++
    "|[\\\"'](?:aes-\\d+-ecb|des-ede3?|des-cbc|rc4)[\\\"']" ++
    "|\\bCryptoJS\\.(?:MD5|SHA1|DES|RC4)\\b"
  kind := "Weak Cryptography"
  category := .cryptography
  description := "Broken hash function or cipher mode in use"
  explanation :=
    "MD5, SHA-1, DES, RC4 and ECB mode have practical attacks and no longer protect " ++
    "integrity or confidentiality."
  mitigation :=
    "Use SHA-256 or better for hashing, a password KDF for passwords, and AES-GCM for " ++
    "encryption."
  safeCode := "digest = hashlib.sha256(data).hexdigest()"

/-- Information Disclosure: secrets or stack traces written to logs or responses. -/
def informationDisclosure : Definition where
  id := "information-disclosure"
  pattern :=
    "\\b(?:console\\.(?:log|info|debug|error)|print|logger\\.\\w+|logging\\.\\w+)\\s*\\(" ++
    "[^)]\x7b0,200\x7d\\b(?:password|passwd|secret|token|apiKey|api_key)\\b" ++
    "|\\btraceback\\.print_exc\\s*\\(" ++
    "|\\bres\\.(?:send|json)\\s*\\(\\s*(?:err|error)(?:\\.stack)?\\s*\\)" ++
    "|\\b(?:err|error)\\.stack\\b"
  kind := "Information Disclosure"
  category := .sensitiveData
  description := "Secrets or stack traces written to logs or responses"
  explanation :=
    "Stack traces and logged secrets reveal internals and credentials to anyone with access " ++
    "to the output."
  mitigation :=
    "Log a generic message with an error id and keep secrets and traces out of responses."
  safeCode := "logger.error(\"login failed for user_id=%s\", user_id)"

/-- Debug Mode Enabled: debug mode switched on in application configuration. -/
def debugModeEnabled : Definition where
  id := "debug-mode-enabled"
  pattern :=
    "\\bDEBUG\\s*=\\s*True\\b" ++
    "|\\bapp\\.run\\s*\\([^)]\x7b0,200\x7ddebug\\s*=\\s*True" ++
    "|\\bapp\\.debug\\s*=\\s*True\\b" ++
    "|\\bdebug\\s*:\\s*true\\b"
  kind := "Debug Mode Enabled"
  category := .configuration
  description := "Debug mode switched on in application configuration"
  explanation :=
    "Debug mode exposes interactive consoles, stack traces and settings that must never be " ++
    "reachable in production."
  mitigation := "Read the debug flag from the environment and default it to off."
  safeCode := "DEBUG = os.environ.get(\"DEBUG\", \"false\").lower() == \"true\""

/-- TLS Verification Disabled: certificate verification turned off for outbound connections. -/
def tlsVerificationDisabled : Definition where
  id := "tls-verification-disabled"
  pattern :=
    "\\b(?:requests|httpx|session|client)\\.\\w+\\s*\\([^)]\x7b0,200\x7dverify\\s*=\\s*False" ++
    "|\\bverify_mode\\s*=\\s*ssl\\.CERT_NONE\\b" ++
    "|\\b_create_unverified_context\\s*\\(" ++
    "|\\brejectUnauthorized\\s*:\\s*false\\b" ++
    "|NODE_TLS_REJECT_UNAUTHORIZED[\\\"']?\\]?\\s*=\\s*[\\\"']?0"
  kind := "TLS Verification Disabled"
  category := .configuration
  description := "Certificate verification turned off for outbound connections"
  explanation :=
    "Without certificate checks any network attacker can intercept and modify the traffic."
  mitigation := "Keep verification on and point the client at the correct CA bundle if needed."
  safeCode := "requests.get(url, verify=\"/etc/ssl/certs/ca-bundle.crt\", timeout=10)"

/-- Insecure Transport: plain HTTP URL used for a non-local endpoint. -/
def insecureTransport : Definition where
  id := "insecure-transport"
  pattern := "[\\\"'`]http://(?!localhost\\b|127\\.0\\.0\\.1\\b|0\\.0\\.0\\.0\\b|\\[::1\\])"
  kind := "Insecure Transport"
  category := .configuration
  description := "Plain HTTP URL used for a non-local endpoint"
  explanation := "Traffic over plain HTTP can be read and altered by anyone on the network path."
  mitigation := "Use https:// for every remote endpoint."
  safeCode := "API_URL = \"https://api.example.com\""

/-- Permissive CORS Policy: cross-origin requests allowed from any origin. -/
def permissiveCors : Definition where
  id := "permissive-cors"
  pattern :=
    "Access-Control-Allow-Origin[\\\"']?\\s*[,:]\\s*[\\\"']\\*[\\\"']" ++
    "|\\ballow_origins\\s*=\\s*\\[\\s*[\\\"']\\*[\\\"']\\s*\\]" ++
    "|\\borigin\\s*:\\s*[\\\"']\\*[\\\"']" ++
    "|\\bcors\\s*\\(\\s*\\)" ++
    "|\\bCORS_ORIGIN_ALLOW_ALL\\s*=\\s*True\\b"
  kind := "Permissive CORS Policy"
  category := .configuration
  description := "Cross-origin requests allowed from any origin"
  explanation := "A wildcard CORS policy lets any website call the API from a victim's browser."
  mitigation := "List the exact origins that need access."
  safeCode := "allow_origins=[\"https://app.example.com\"]"

/-- Empty Exception Handler: exception caught and silently discarded. -/
def emptyExceptionHandler : Definition where
  id := "empty-exception-handler"
  pattern :=
    "\\bexcept\\b[^:]\x7b0,200\x7d:\\s*pass\\b" ++
    "|\\bcatch\\s*(?:\\([^)]\x7b0,200\x7d\\))?\\s*\\\x7b\\s*\\\x7d"
  kind := "Empty Exception Handler"
  category := .codeQuality
  description := "Exception caught and silently discarded"
  explanation :=
    "Swallowed errors hide failed security checks and make incidents impossible to trace."
  mitigation := "Handle the specific exception or log it and re-raise."
  safeCode := "except ValueError as exc:\n    logger.warning(\"invalid value: %s\", exc)\n    raise"

/-- Unresolved Code Marker: TODO/FIXME/HACK marker left in the code. -/
def unresolvedCodeMarker : Definition where
  id := "unresolved-code-marker"
  pattern := "(?:#|//|/\\*)\\s*(?:TODO|FIXME|HACK|XXX)\\b"
  kind := "Unresolved Code Marker"
  category := .codeQuality
  description := "TODO/FIXME/HACK marker left in the code"
  explanation :=
    "Markers often flag unfinished validation or known shortcuts that ship to production."
  mitigation := "Resolve the marker or track it in the issue tracker."
  safeCode := "# See issue #123 for the follow-up"

/-- Debugger Statement: debugger statement left in the code. -/
def debuggerStatement : Definition where
  id := "debugger-statement"
  pattern := "^\\s*debugger\\s*;?\\s*$"
  kind := "Debugger Statement"
  category := .codeQuality
  description := "debugger statement left in the code"
  explanation :=
    "A leftover debugger statement pauses execution in developer tools and signals untested " ++
    "code."
  mitigation := "Remove debugger statements before committing."
  safeCode := "// removed debugger statement"

/-- The definitions of the built-in rules, in catalog order. -/
def definitions : List Definition :=
  [dynamicCodeExecution, crossSiteScripting, insecureRandomness, hardcodedCredentials,
   sqlInjection, commandInjection, pathTraversal, missingInputValidation, unvalidatedRedirect,
   insecureFileOperations, insecureDeserialization, authenticationBypass,
   insecureTokenVerification, weakCryptography, informationDisclosure, debugModeEnabled,
   tlsVerificationDisabled, insecureTransport, permissiveCors, emptyExceptionHandler,
   unresolvedCodeMarker, debuggerStatement]

/-- The built-in catalog.  Its definitions are all in order, so nothing is lost in building it. -/
def builtIn : List Rule :=
  (build (Pattern.compile .standard) (definitions.map Definition.fields)).toOption.getD []

end Catalog

end CodeScan
