/-!
# Requests and replies

`Request` : a query as it is sent to a server.
`Reply`   : the status and the bytes that come back.
-/

namespace SchemaMigration.Http

set_option autoImplicit false

inductive Method
  | get
  | post
  deriving DecidableEq, Repr

def Method.name : Method → String
  | get => "GET"
  | post => "POST"

/-- A query as it is sent: to which server and path, for which database, and on whose behalf. -/
structure Request where
  origin : String
  method : Method
  path : String
  database : Option String
  sql : String
  user : String
  password : String
  deriving DecidableEq, Repr

structure Reply where
  status : Nat
  body : List UInt8
  deriving DecidableEq, Repr

/-- Whether a text may be the value of a header: it has no control characters but tabs. -/
def isHeaderValue (s : String) : Bool := s.toList.all fun c => c == '\t' || (0x20 ≤ c.toNat && c.toNat != 0x7F)

def reasons : List (Nat × String) :=
  [(100, "Continue"), (101, "Switching Protocols"), (102, "Processing"), (200, "OK"), (201, "Created"),
    (202, "Accepted"), (203, "Non Authoritative Information"), (204, "No Content"), (205, "Reset Content"),
    (206, "Partial Content"), (207, "Multi-Status"), (208, "Already Reported"), (226, "IM Used"),
    (300, "Multiple Choices"), (301, "Moved Permanently"), (302, "Found"), (303, "See Other"), (304, "Not Modified"),
    (305, "Use Proxy"), (307, "Temporary Redirect"), (308, "Permanent Redirect"), (400, "Bad Request"),
    (401, "Unauthorized"), (402, "Payment Required"), (403, "Forbidden"), (404, "Not Found"),
    (405, "Method Not Allowed"), (406, "Not Acceptable"), (407, "Proxy Authentication Required"),
    (408, "Request Timeout"), (409, "Conflict"), (410, "Gone"), (411, "Length Required"),
    (412, "Precondition Failed"), (413, "Payload Too Large"), (414, "URI Too Long"), (415, "Unsupported Media Type"),
    (416, "Range Not Satisfiable"), (417, "Expectation Failed"), (418, "I'm a teapot"), (421, "Misdirected Request"),
    (422, "Unprocessable Entity"), (423, "Locked"), (424, "Failed Dependency"), (426, "Upgrade Required"),
    (428, "Precondition Required"), (429, "Too Many Requests"), (431, "Request Header Fields Too Large"),
    (451, "Unavailable For Legal Reasons"), (500, "Internal Server Error"), (501, "Not Implemented"),
    (502, "Bad Gateway"), (503, "Service Unavailable"), (504, "Gateway Timeout"), (505, "HTTP Version Not Supported"),
    (506, "Variant Also Negotiates"), (507, "Insufficient Storage"), (508, "Loop Detected"), (510, "Not Extended"),
    (511, "Network Authentication Required")]

def statusLine (status : Nat) : String := s!"{status} " ++ (reasons.lookup status).getD "<unknown>"

end SchemaMigration.Http
