/-!
# A grammar of Balinese

A small grammar of Balinese sentence structure, used where no other grammar is given.
-/

namespace Cyk.Balinese

/-- The lines of the definition. -/
def lines : List String :=
  ["# Balinese sentence structure, in Chomsky normal form plus unit rules.",
   "# A sentence opens with a prepositional or time phrase.",
   "",
   "start: S",
   "",
   "S  -> PP NP | PP C1 | PP C2 | PP C3 | PP C4",
   "C1 -> NP PP",
   "C2 -> NP VP",
   "C3 -> VP NP",
   "C4 -> VP C5",
   "C5 -> NP PP",
   "",
   "PP -> Prep NP | N_lok NP | Prep_time N_time",
   "NP -> N_lok N | N | PropN",
   "VP -> Aux V | V NP | V",
   "",
   "# lexicon",
   "Prep      -> \"ring\" | \"ka\" | \"saking\"",
   "N_lok     -> \"duur\" | \"betén\" | \"tengah\" | \"sisin\"",
   "N         -> \"temboké\" | \"kranjangé\" | \"lemariné\" | \"punyan kayuné\" | \"tukadé\"",
   "N         -> \"carik\" | \"pasar\" | \"balé banjar\" | \"paon\" | \"hotél\" | \"meongé\"",
   "N         -> \"siapé\" | \"bajuné\" | \"kedisé\" | \"umahné\" | \"tamuné\" | \"bikul\"",
   "N         -> \"amah\" | \"gerang\" | \"panggung\" | \"arit\" | \"baas\" | " ++
      "\"nyrati\" | \"mémé\"",
   "PropN     -> \"Bli Wayan\" | \"Mbok Putu\" | \"I Nyoman\" | \"Luh Sari\"",
   "Aux       -> \"lakar\" | \"suba\" | \"tusing\" | \"sedek\" | \"iteh\"",
   "V         -> \"nguber\" | \"adep\" | \"anggon\" | \"ngalih\" | \"kontrakang\" | \"manyi\"",
   "V         -> \"meblanja\" | \"rapat\" | \"ngoreng\" | \"nginep\" | \"pules\" | \"mati\"",
   "V         -> \"melah\" | \"memunyi\" | \"dadi\" | \"ngaba\" | \"numbas\" | \"malajah\"",
   "V         -> \"nulungin\" | \"madaar\"",
   "Prep_time -> \"uli\" | \"dugas\" | \"saking\" | \"rikala\" | \"mara\"",
   "N_time    -> \"tuni\" | \"sanja\" | \"ibi\" | \"ujan\" | \"pidan\" | \"semeng\" | \"tengai\"",
   "N_time    -> \"liburan\" | \"pagi\" | \"tuni semeng\" | \"ibi sanja\" | \"mara pisan\" | " ++
      "\"uli mara\""]

/-- The definition of the grammar. -/
def definition : String :=
  String.join (lines.map (· ++ "\n"))

end Cyk.Balinese
