/-!
# Names of pictures: flags

## Main definitions

* `Pictograph.flags` — flags of countries and territories, with their names.
-/

namespace SwitchTrace.Pictograph

/-- One picture for each text: the numbers of its characters in hexadecimal, and its names. -/
def flags : List String :=
  ["1F1E6-1F1E8 ascension_island flag_for_ascension_island", "1F1E6-1F1E9 andorra flag_for_andorra",
  "1F1E6-1F1EA flag_for_united_arab_emirates united_arab_emirates",
  "1F1E6-1F1EB afghanistan flag_for_afghanistan",
  "1F1E6-1F1EC antigua_&_barbuda flag_for_antigua_&_barbuda",
  "1F1E6-1F1EE anguilla flag_for_anguilla", "1F1E6-1F1F1 albania flag_for_albania",
  "1F1E6-1F1F2 armenia flag_for_armenia", "1F1E6-1F1F4 angola flag_for_angola",
  "1F1E6-1F1F6 antarctica flag_for_antarctica", "1F1E6-1F1F7 argentina flag_for_argentina",
  "1F1E6-1F1F8 american_samoa flag_for_american_samoa", "1F1E6-1F1F9 austria flag_for_austria",
  "1F1E6-1F1FA australia flag_for_australia", "1F1E6-1F1FC aruba flag_for_aruba",
  "1F1E6-1F1FD flag_for_åland_islands åland_islands", "1F1E6-1F1FF azerbaijan flag_for_azerbaijan",
  "1F1E7-1F1E6 bosnia_&_herzegovina flag_for_bosnia_&_herzegovina",
  "1F1E7-1F1E7 barbados flag_for_barbados", "1F1E7-1F1E9 bangladesh flag_for_bangladesh",
  "1F1E7-1F1EA belgium flag_for_belgium", "1F1E7-1F1EB burkina_faso flag_for_burkina_faso",
  "1F1E7-1F1EC bulgaria flag_for_bulgaria", "1F1E7-1F1ED bahrain flag_for_bahrain",
  "1F1E7-1F1EE burundi flag_for_burundi", "1F1E7-1F1EF benin flag_for_benin",
  "1F1E7-1F1F1 flag_for_st._barthélemy st._barthélemy", "1F1E7-1F1F2 bermuda flag_for_bermuda",
  "1F1E7-1F1F3 brunei flag_for_brunei", "1F1E7-1F1F4 bolivia flag_for_bolivia",
  "1F1E7-1F1F6 caribbean_netherlands flag_for_caribbean_netherlands",
  "1F1E7-1F1F7 brazil flag_for_brazil", "1F1E7-1F1F8 bahamas flag_for_bahamas",
  "1F1E7-1F1F9 bhutan flag_for_bhutan", "1F1E7-1F1FB bouvet_island flag_for_bouvet_island",
  "1F1E7-1F1FC botswana flag_for_botswana", "1F1E7-1F1FE belarus flag_for_belarus",
  "1F1E7-1F1FF belize flag_for_belize", "1F1E8-1F1E6 canada flag_for_canada",
  "1F1E8-1F1E8 cocos_(keeling)_islands flag_for_cocos__islands",
  "1F1E8-1F1E9 congo_-_kinshasa flag_for_congo____kinshasa",
  "1F1E8-1F1EB central_african_republic flag_for_central_african_republic",
  "1F1E8-1F1EC congo_-_brazzaville flag_for_congo____brazzaville",
  "1F1E8-1F1ED flag_for_switzerland switzerland",
  "1F1E8-1F1EE côte_d’ivoire flag_for_côte_d’ivoire",
  "1F1E8-1F1F0 cook_islands flag_for_cook_islands", "1F1E8-1F1F1 chile flag_for_chile",
  "1F1E8-1F1F2 cameroon flag_for_cameroon", "1F1E8-1F1F3 china flag_for_china",
  "1F1E8-1F1F4 colombia flag_for_colombia",
  "1F1E8-1F1F5 clipperton_island flag_for_clipperton_island",
  "1F1E8-1F1F7 costa_rica flag_for_costa_rica", "1F1E8-1F1FA cuba flag_for_cuba",
  "1F1E8-1F1FB cape_verde flag_for_cape_verde", "1F1E8-1F1FC curaçao flag_for_curaçao",
  "1F1E8-1F1FD christmas_island flag_for_christmas_island", "1F1E8-1F1FE cyprus flag_for_cyprus",
  "1F1E8-1F1FF czechia flag_for_czech_republic", "1F1E9-1F1EA flag_for_germany germany",
  "1F1E9-1F1EC diego_garcia flag_for_diego_garcia", "1F1E9-1F1EF djibouti flag_for_djibouti",
  "1F1E9-1F1F0 denmark flag_for_denmark", "1F1E9-1F1F2 dominica flag_for_dominica",
  "1F1E9-1F1F4 dominican_republic flag_for_dominican_republic",
  "1F1E9-1F1FF algeria flag_for_algeria", "1F1EA-1F1E6 ceuta_&_melilla flag_for_ceuta_&_melilla",
  "1F1EA-1F1E8 ecuador flag_for_ecuador", "1F1EA-1F1EA estonia flag_for_estonia",
  "1F1EA-1F1EC egypt flag_for_egypt", "1F1EA-1F1ED flag_for_western_sahara western_sahara",
  "1F1EA-1F1F7 eritrea flag_for_eritrea", "1F1EA-1F1F8 flag_for_spain spain",
  "1F1EA-1F1F9 ethiopia flag_for_ethiopia", "1F1EA-1F1FA european_union flag_for_european_union",
  "1F1EB-1F1EE finland flag_for_finland", "1F1EB-1F1EF fiji flag_for_fiji",
  "1F1EB-1F1F0 falkland_islands flag_for_falkland_islands",
  "1F1EB-1F1F2 flag_for_micronesia micronesia", "1F1EB-1F1F4 faroe_islands flag_for_faroe_islands",
  "1F1EB-1F1F7 flag_for_france france", "1F1EC-1F1E6 flag_for_gabon gabon",
  "1F1EC-1F1E7 flag_for_united_kingdom united_kingdom", "1F1EC-1F1E9 flag_for_grenada grenada",
  "1F1EC-1F1EA flag_for_georgia georgia", "1F1EC-1F1EB flag_for_french_guiana french_guiana",
  "1F1EC-1F1EC flag_for_guernsey guernsey", "1F1EC-1F1ED flag_for_ghana ghana",
  "1F1EC-1F1EE flag_for_gibraltar gibraltar", "1F1EC-1F1F1 flag_for_greenland greenland",
  "1F1EC-1F1F2 flag_for_gambia gambia", "1F1EC-1F1F3 flag_for_guinea guinea",
  "1F1EC-1F1F5 flag_for_guadeloupe guadeloupe",
  "1F1EC-1F1F6 equatorial_guinea flag_for_equatorial_guinea", "1F1EC-1F1F7 flag_for_greece greece",
  "1F1EC-1F1F8 flag_for_south_georgia_&_south_sandwich_islands",
  "1F1EC-1F1F8 south_georgia_&_south_sandwich_islands", "1F1EC-1F1F9 flag_for_guatemala guatemala",
  "1F1EC-1F1FA flag_for_guam guam", "1F1EC-1F1FC flag_for_guinea__bissau guinea-bissau",
  "1F1EC-1F1FE flag_for_guyana guyana", "1F1ED-1F1F0 flag_for_hong_kong hong_kong_sar_china",
  "1F1ED-1F1F2 flag_for_heard_&_mcdonald_islands heard_&_mcdonald_islands",
  "1F1ED-1F1F3 flag_for_honduras honduras", "1F1ED-1F1F7 croatia flag_for_croatia",
  "1F1ED-1F1F9 flag_for_haiti haiti", "1F1ED-1F1FA flag_for_hungary hungary",
  "1F1EE-1F1E8 canary_islands flag_for_canary_islands", "1F1EE-1F1E9 flag_for_indonesia indonesia",
  "1F1EE-1F1EA flag_for_ireland ireland", "1F1EE-1F1F1 flag_for_israel israel",
  "1F1EE-1F1F2 flag_for_isle_of_man isle_of_man", "1F1EE-1F1F3 flag_for_india india",
  "1F1EE-1F1F4 british_indian_ocean_territory flag_for_british_indian_ocean_territory",
  "1F1EE-1F1F6 flag_for_iraq iraq", "1F1EE-1F1F7 flag_for_iran iran",
  "1F1EE-1F1F8 flag_for_iceland iceland", "1F1EE-1F1F9 flag_for_italy italy",
  "1F1EF-1F1EA flag_for_jersey jersey", "1F1EF-1F1F2 flag_for_jamaica jamaica",
  "1F1EF-1F1F4 flag_for_jordan jordan", "1F1EF-1F1F5 flag_for_japan",
  "1F1F0-1F1EA flag_for_kenya kenya", "1F1F0-1F1EC flag_for_kyrgyzstan kyrgyzstan",
  "1F1F0-1F1ED cambodia flag_for_cambodia", "1F1F0-1F1EE flag_for_kiribati kiribati",
  "1F1F0-1F1F2 comoros flag_for_comoros",
  "1F1F0-1F1F3 flag_for_st._kitts_&_nevis st._kitts_&_nevis",
  "1F1F0-1F1F5 flag_for_north_korea north_korea", "1F1F0-1F1F7 flag_for_south_korea south_korea",
  "1F1F0-1F1FC flag_for_kuwait kuwait", "1F1F0-1F1FE cayman_islands flag_for_cayman_islands",
  "1F1F0-1F1FF flag_for_kazakhstan kazakhstan", "1F1F1-1F1E6 flag_for_laos laos",
  "1F1F1-1F1E7 flag_for_lebanon lebanon", "1F1F1-1F1E8 flag_for_st._lucia st._lucia",
  "1F1F1-1F1EE flag_for_liechtenstein liechtenstein", "1F1F1-1F1F0 flag_for_sri_lanka sri_lanka",
  "1F1F1-1F1F7 flag_for_liberia liberia", "1F1F1-1F1F8 flag_for_lesotho lesotho",
  "1F1F1-1F1F9 flag_for_lithuania lithuania", "1F1F1-1F1FA flag_for_luxembourg luxembourg",
  "1F1F1-1F1FB flag_for_latvia latvia", "1F1F1-1F1FE flag_for_libya libya",
  "1F1F2-1F1E6 flag_for_morocco morocco", "1F1F2-1F1E8 flag_for_monaco monaco",
  "1F1F2-1F1E9 flag_for_moldova moldova", "1F1F2-1F1EA flag_for_montenegro montenegro",
  "1F1F2-1F1EB flag_for_st._martin st._martin", "1F1F2-1F1EC flag_for_madagascar madagascar",
  "1F1F2-1F1ED flag_for_marshall_islands marshall_islands",
  "1F1F2-1F1F0 flag_for_macedonia macedonia", "1F1F2-1F1F1 flag_for_mali mali",
  "1F1F2-1F1F2 flag_for_myanmar myanmar_(burma)", "1F1F2-1F1F3 flag_for_mongolia mongolia",
  "1F1F2-1F1F4 flag_for_macau macau_sar_china",
  "1F1F2-1F1F5 flag_for_northern_mariana_islands northern_mariana_islands",
  "1F1F2-1F1F6 flag_for_martinique martinique", "1F1F2-1F1F7 flag_for_mauritania mauritania",
  "1F1F2-1F1F8 flag_for_montserrat montserrat", "1F1F2-1F1F9 flag_for_malta malta",
  "1F1F2-1F1FA flag_for_mauritius mauritius", "1F1F2-1F1FB flag_for_maldives maldives",
  "1F1F2-1F1FC flag_for_malawi malawi", "1F1F2-1F1FD flag_for_mexico mexico",
  "1F1F2-1F1FE flag_for_malaysia malaysia", "1F1F2-1F1FF flag_for_mozambique mozambique",
  "1F1F3-1F1E6 flag_for_namibia namibia", "1F1F3-1F1E8 flag_for_new_caledonia new_caledonia",
  "1F1F3-1F1EA flag_for_niger niger", "1F1F3-1F1EB flag_for_norfolk_island norfolk_island",
  "1F1F3-1F1EC flag_for_nigeria nigeria", "1F1F3-1F1EE flag_for_nicaragua nicaragua",
  "1F1F3-1F1F1 flag_for_netherlands netherlands", "1F1F3-1F1F4 flag_for_norway norway",
  "1F1F3-1F1F5 flag_for_nepal nepal", "1F1F3-1F1F7 flag_for_nauru nauru",
  "1F1F3-1F1FA flag_for_niue niue", "1F1F3-1F1FF flag_for_new_zealand new_zealand",
  "1F1F4-1F1F2 flag_for_oman oman", "1F1F5-1F1E6 flag_for_panama panama",
  "1F1F5-1F1EA flag_for_peru peru", "1F1F5-1F1EB flag_for_french_polynesia french_polynesia",
  "1F1F5-1F1EC flag_for_papua_new_guinea papua_new_guinea",
  "1F1F5-1F1ED flag_for_philippines philippines", "1F1F5-1F1F0 flag_for_pakistan pakistan",
  "1F1F5-1F1F1 flag_for_poland poland",
  "1F1F5-1F1F2 flag_for_st._pierre_&_miquelon st._pierre_&_miquelon",
  "1F1F5-1F1F3 flag_for_pitcairn_islands pitcairn_islands",
  "1F1F5-1F1F7 flag_for_puerto_rico puerto_rico",
  "1F1F5-1F1F8 flag_for_palestinian_territories palestinian_territories",
  "1F1F5-1F1F9 flag_for_portugal portugal", "1F1F5-1F1FC flag_for_palau palau",
  "1F1F5-1F1FE flag_for_paraguay paraguay", "1F1F6-1F1E6 flag_for_qatar qatar",
  "1F1F7-1F1EA flag_for_réunion réunion", "1F1F7-1F1F4 flag_for_romania romania",
  "1F1F7-1F1F8 flag_for_serbia serbia", "1F1F7-1F1FA flag_for_russia russia",
  "1F1F7-1F1FC flag_for_rwanda rwanda", "1F1F8-1F1E6 flag_for_saudi_arabia saudi_arabia",
  "1F1F8-1F1E7 flag_for_solomon_islands solomon_islands",
  "1F1F8-1F1E8 flag_for_seychelles seychelles", "1F1F8-1F1E9 flag_for_sudan sudan",
  "1F1F8-1F1EA flag_for_sweden sweden", "1F1F8-1F1EC flag_for_singapore singapore",
  "1F1F8-1F1ED flag_for_st._helena st._helena", "1F1F8-1F1EE flag_for_slovenia slovenia",
  "1F1F8-1F1EF flag_for_svalbard_&_jan_mayen svalbard_&_jan_mayen",
  "1F1F8-1F1F0 flag_for_slovakia slovakia", "1F1F8-1F1F1 flag_for_sierra_leone sierra_leone",
  "1F1F8-1F1F2 flag_for_san_marino san_marino", "1F1F8-1F1F3 flag_for_senegal senegal",
  "1F1F8-1F1F4 flag_for_somalia somalia", "1F1F8-1F1F7 flag_for_suriname suriname",
  "1F1F8-1F1F8 flag_for_south_sudan south_sudan",
  "1F1F8-1F1F9 flag_for_são_tomé_&_príncipe são_tomé_&_príncipe",
  "1F1F8-1F1FB el_salvador flag_for_el_salvador", "1F1F8-1F1FD flag_for_sint_maarten sint_maarten",
  "1F1F8-1F1FE flag_for_syria syria", "1F1F8-1F1FF flag_for_swaziland swaziland",
  "1F1F9-1F1E6 flag_for_tristan_da_cunha tristan_da_cunha",
  "1F1F9-1F1E8 flag_for_turks_&_caicos_islands turks_&_caicos_islands",
  "1F1F9-1F1E9 chad flag_for_chad",
  "1F1F9-1F1EB flag_for_french_southern_territories french_southern_territories",
  "1F1F9-1F1EC flag_for_togo togo", "1F1F9-1F1ED flag_for_thailand thailand",
  "1F1F9-1F1EF flag_for_tajikistan tajikistan", "1F1F9-1F1F0 flag_for_tokelau tokelau",
  "1F1F9-1F1F1 flag_for_timor__leste timor-leste", "1F1F9-1F1F2 flag_for_turkmenistan turkmenistan",
  "1F1F9-1F1F3 flag_for_tunisia tunisia", "1F1F9-1F1F4 flag_for_tonga tonga",
  "1F1F9-1F1F7 flag_for_turkey", "1F1F9-1F1F9 flag_for_trinidad_&_tobago trinidad_&_tobago",
  "1F1F9-1F1FB flag_for_tuvalu tuvalu", "1F1F9-1F1FC flag_for_taiwan taiwan",
  "1F1F9-1F1FF flag_for_tanzania tanzania", "1F1FA-1F1E6 flag_for_ukraine ukraine",
  "1F1FA-1F1EC flag_for_uganda uganda",
  "1F1FA-1F1F2 flag_for_u.s._outlying_islands u.s._outlying_islands", "1F1FA-1F1F3 united_nations",
  "1F1FA-1F1F8 flag_for_united_states united_states", "1F1FA-1F1FE flag_for_uruguay uruguay",
  "1F1FA-1F1FF flag_for_uzbekistan uzbekistan", "1F1FB-1F1E6 flag_for_vatican_city vatican_city",
  "1F1FB-1F1E8 flag_for_st._vincent_&_grenadines st._vincent_&_grenadines",
  "1F1FB-1F1EA flag_for_venezuela venezuela",
  "1F1FB-1F1EC british_virgin_islands flag_for_british_virgin_islands",
  "1F1FB-1F1EE flag_for_u.s._virgin_islands u.s._virgin_islands",
  "1F1FB-1F1F3 flag_for_vietnam vietnam", "1F1FB-1F1FA flag_for_vanuatu vanuatu",
  "1F1FC-1F1EB flag_for_wallis_&_futuna wallis_&_futuna", "1F1FC-1F1F8 flag_for_samoa samoa",
  "1F1FD-1F1F0 flag_for_kosovo kosovo", "1F1FE-1F1EA flag_for_yemen yemen",
  "1F1FE-1F1F9 flag_for_mayotte mayotte", "1F1FF-1F1E6 flag_for_south_africa south_africa",
  "1F1FF-1F1F2 flag_for_zambia zambia", "1F1FF-1F1FC flag_for_zimbabwe zimbabwe"]

end SwitchTrace.Pictograph
