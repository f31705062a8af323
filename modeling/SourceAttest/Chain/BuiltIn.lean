import SourceAttest.Chain.Basic

/-!
# The built-in chain table

The chains that are supported without further configuration.
-/
namespace SourceAttest.Chain

def settingOf : Option String → Json
  | some text => .string text
  | none => .null

def entry (id name endpoint : String) (fullnode archive : Option String) (page pattern : String)
    (index : Option String) : Json × Json :=
  (.string id, .object [
    ("name", .string name),
    ("rpc", .array [.string endpoint]),
    ("fullnode", settingOf fullnode),
    ("archive_rpc", settingOf archive),
    ("contract_fetch_address", .string page),
    ("tx_regex", .string pattern),
    ("graphql_fetch_address", settingOf index)])

/-- The place of the address in an explorer page. -/
def addressMark : String := "\x7baddress\x7d"

/-- How explorers of one family link the creating transaction. -/
def linkPattern : String := "at txn <a href='/tx/(0x[0-9a-fA-F]\x7b64\x7d)'"

/-- How explorers of the other family mention it. -/
def mentionPattern : String := "at txn.*href.*/tx/(0x[0-9a-fA-F]\x7b64\x7d)"

def builtIn : ChainTable := [
  entry "1" "Ethereum Mainnet" ("https://eth-mainnet.alchemyapi.io/v2/" ++ providerMark)
    (some "http://geth.dappnode:8545") none
    ("https://etherscan.io/address/" ++ addressMark) linkPattern none,
  entry "3" "Ropsten" ("https://eth-ropsten.alchemyapi.io/v2/" ++ providerMark)
    (some "http://ropsten.dappnode:8545") none
    ("https://ropsten.etherscan.io/address/" ++ addressMark) linkPattern none,
  entry "4" "Rinkeby" ("https://eth-rinkeby.alchemyapi.io/v2/" ++ providerMark)
    (some "http://rinkeby.dappnode:8545") none
    ("https://rinkeby.etherscan.io/address/" ++ addressMark) linkPattern none,
  entry "5" "Görli" ("https://eth-goerli.alchemyapi.io/v2/" ++ providerMark)
    (some "http://goerli-geth.dappnode:8545") none
    ("https://goerli.etherscan.io/address/" ++ addressMark) linkPattern none,
  entry "42" "Kovan" ("https://eth-kovan.alchemyapi.io/v2/" ++ providerMark)
    none none
    ("https://kovan.etherscan.io/address/" ++ addressMark) linkPattern none,
  entry "77" "Sokol" "https://sokol.poa.network"
    none (some "https://sokol-archive.blockscout.com")
    ("https://blockscout.com/poa/sokol/address/" ++ addressMark ++ "/transactions") mentionPattern none,
  entry "100" "xDai Chain" "https://rpc.xdaichain.com"
    none (some "https://xdai-archive.blockscout.com")
    ("https://blockscout.com/poa/xdai/address/" ++ addressMark ++ "/transactions") mentionPattern none,
  entry "137" "Polygon Mainnet" ("https://polygon-mainnet.g.alchemy.com/v2/" ++ providerMark)
    none none
    ("https://polygonscan.com/address/" ++ addressMark) linkPattern
    (some "https://api.thegraph.com/subgraphs/name/contract-creations/polygon")]

end SourceAttest.Chain
