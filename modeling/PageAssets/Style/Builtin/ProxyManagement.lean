/-! The style of the page that manages proxies. -/

namespace PageAssets.Style.Builtin

def proxyManagementLines : List String := [
  "        ",
  "        .backends-list \x7b",
  "            margin-top: 10px;",
  "            padding: 10px;",
  "            background-color: #f9f9f9;",
  "            border-radius: 4px;",
  "        \x7d",
  "        ",
  "        .backend-item \x7b",
  "            display: flex;",
  "            gap: 10px;",
  "            margin-bottom: 10px;",
  "            padding: 10px;",
  "            background: white;",
  "            border-radius: 4px;",
  "            align-items: center;",
  "        \x7d",
  "        ",
  "        .backend-item input \x7b",
  "            flex: 1;",
  "        \x7d",
  "        ",
  "        .tcp-udp-mode .backend-address-field,",
  "        .tcp-udp-mode .tcp-udp-backend-port-field \x7b",
  "            flex: 0 0 25%;",
  "            max-width: 25%;",
  "        \x7d"]

def proxyManagement : String := "\n".intercalate proxyManagementLines

end PageAssets.Style.Builtin
