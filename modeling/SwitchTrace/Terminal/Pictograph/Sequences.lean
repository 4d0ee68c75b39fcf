/-!
# Names of pictures: sequences

## Main definitions

* `Pictograph.sequences` — pictures of several characters, with their names.
-/

namespace SwitchTrace.Pictograph

/-- One picture for each text: the numbers of its characters in hexadecimal, and its names. -/
def sequences : List String :=
  ["26F9-FE0F-200D-2640-FE0F woman_bouncing_ball", "26F9-FE0F-200D-2642-FE0F man_bouncing_ball",
  "1F3C3-200D-2640-FE0F woman_running", "1F3C3-200D-2642-FE0F man_running",
  "1F3C4-200D-2640-FE0F woman_surfing", "1F3C4-200D-2642-FE0F man_surfing",
  "1F3CA-200D-2640-FE0F woman_swimming", "1F3CA-200D-2642-FE0F man_swimming",
  "1F3CB-FE0F-200D-2640-FE0F woman_lifting_weights",
  "1F3CB-FE0F-200D-2642-FE0F man_lifting_weights", "1F3CC-FE0F-200D-2640-FE0F woman_golfing",
  "1F3CC-FE0F-200D-2642-FE0F man_golfing", "1F3F3-FE0F-200D-1F308 rainbow_flag",
  "1F3F4-200D-2620-FE0F pirate_flag", "1F3F4-E0067-E0062-E0065-E006E-E0067-E007F england",
  "1F3F4-E0067-E0062-E0073-E0063-E0074-E007F scotland",
  "1F3F4-E0067-E0062-E0077-E006C-E0073-E007F wales", "1F415-200D-1F9BA service_dog",
  "1F441-FE0F-200D-1F5E8-FE0F eye_in_speech_bubble", "1F468-200D-2695-FE0F man_health_worker",
  "1F468-200D-2696-FE0F man_judge", "1F468-200D-2708-FE0F man_pilot",
  "1F468-200D-2764-FE0F-200D-1F468 couple_with_heart_man_man",
  "1F468-200D-2764-FE0F-200D-1F48B-200D-1F468 kiss_man_man", "1F468-200D-1F33E man_farmer",
  "1F468-200D-1F373 man_cook", "1F468-200D-1F393 man_student", "1F468-200D-1F3A4 man_singer",
  "1F468-200D-1F3A8 man_artist", "1F468-200D-1F3EB man_teacher",
  "1F468-200D-1F3ED man_factory_worker", "1F468-200D-1F466 family_man_boy",
  "1F468-200D-1F466-200D-1F466 family_man_boy_boy", "1F468-200D-1F467 family_man_girl",
  "1F468-200D-1F467-200D-1F466 family_man_girl_boy",
  "1F468-200D-1F467-200D-1F467 family_man_girl_girl",
  "1F468-200D-1F468-200D-1F466 family_man_man_boy",
  "1F468-200D-1F468-200D-1F466-200D-1F466 family_man_man_boy_boy",
  "1F468-200D-1F468-200D-1F467 family_man_man_girl",
  "1F468-200D-1F468-200D-1F467-200D-1F466 family_man_man_girl_boy",
  "1F468-200D-1F468-200D-1F467-200D-1F467 family_man_man_girl_girl",
  "1F468-200D-1F469-200D-1F466 family_man_woman_boy",
  "1F468-200D-1F469-200D-1F466-200D-1F466 family_man_woman_boy_boy",
  "1F468-200D-1F469-200D-1F467 family_man_woman_girl",
  "1F468-200D-1F469-200D-1F467-200D-1F466 family_man_woman_girl_boy",
  "1F468-200D-1F469-200D-1F467-200D-1F467 family_man_woman_girl_girl",
  "1F468-200D-1F4BB man_technologist", "1F468-200D-1F4BC man_office_worker",
  "1F468-200D-1F527 man_mechanic", "1F468-200D-1F52C man_scientist",
  "1F468-200D-1F680 man_astronaut", "1F468-200D-1F692 man_firefighter",
  "1F468-200D-1F9AF man_with_probing_cane", "1F468-200D-1F9B0 red-haired_man",
  "1F468-200D-1F9B1 curly-haired_man", "1F468-200D-1F9B2 bald_man",
  "1F468-200D-1F9B3 white-haired_man", "1F468-200D-1F9BC man_in_motorized_wheelchair",
  "1F468-200D-1F9BD man_in_manual_wheelchair", "1F469-200D-2695-FE0F woman_health_worker",
  "1F469-200D-2696-FE0F woman_judge", "1F469-200D-2708-FE0F woman_pilot",
  "1F469-200D-2764-FE0F-200D-1F468 couple_with_heart_woman_man",
  "1F469-200D-2764-FE0F-200D-1F469 couple_with_heart_woman_woman",
  "1F469-200D-2764-FE0F-200D-1F48B-200D-1F468 kiss_woman_man",
  "1F469-200D-2764-FE0F-200D-1F48B-200D-1F469 kiss_woman_woman", "1F469-200D-1F33E woman_farmer",
  "1F469-200D-1F373 woman_cook", "1F469-200D-1F393 woman_student", "1F469-200D-1F3A4 woman_singer",
  "1F469-200D-1F3A8 woman_artist", "1F469-200D-1F3EB woman_teacher",
  "1F469-200D-1F3ED woman_factory_worker", "1F469-200D-1F466 family_woman_boy",
  "1F469-200D-1F466-200D-1F466 family_woman_boy_boy", "1F469-200D-1F467 family_woman_girl",
  "1F469-200D-1F467-200D-1F466 family_woman_girl_boy",
  "1F469-200D-1F467-200D-1F467 family_woman_girl_girl",
  "1F469-200D-1F469-200D-1F466 family_woman_woman_boy",
  "1F469-200D-1F469-200D-1F466-200D-1F466 family_woman_woman_boy_boy",
  "1F469-200D-1F469-200D-1F467 family_woman_woman_girl",
  "1F469-200D-1F469-200D-1F467-200D-1F466 family_woman_woman_girl_boy",
  "1F469-200D-1F469-200D-1F467-200D-1F467 family_woman_woman_girl_girl",
  "1F469-200D-1F4BB woman_technologist", "1F469-200D-1F4BC woman_office_worker",
  "1F469-200D-1F527 woman_mechanic", "1F469-200D-1F52C woman_scientist",
  "1F469-200D-1F680 woman_astronaut", "1F469-200D-1F692 woman_firefighter",
  "1F469-200D-1F9AF woman_with_probing_cane", "1F469-200D-1F9B0 red-haired_woman",
  "1F469-200D-1F9B1 curly-haired_woman", "1F469-200D-1F9B2 bald_woman",
  "1F469-200D-1F9B3 white-haired_woman", "1F469-200D-1F9BC woman_in_motorized_wheelchair",
  "1F469-200D-1F9BD woman_in_manual_wheelchair", "1F46E-200D-2640-FE0F woman_police_officer",
  "1F46E-200D-2642-FE0F man_police_officer", "1F46F-200D-2640-FE0F women_with_bunny_ears",
  "1F46F-200D-2642-FE0F men_with_bunny_ears", "1F471-200D-2640-FE0F blond-haired_woman",
  "1F471-200D-2642-FE0F blond-haired_man", "1F473-200D-2640-FE0F woman_wearing_turban",
  "1F473-200D-2642-FE0F man_wearing_turban", "1F477-200D-2640-FE0F woman_construction_worker",
  "1F477-200D-2642-FE0F man_construction_worker", "1F481-200D-2640-FE0F woman_tipping_hand",
  "1F481-200D-2642-FE0F man_tipping_hand", "1F482-200D-2640-FE0F woman_guard",
  "1F482-200D-2642-FE0F man_guard", "1F486-200D-2640-FE0F woman_getting_massage",
  "1F486-200D-2642-FE0F man_getting_massage", "1F487-200D-2640-FE0F woman_getting_haircut",
  "1F487-200D-2642-FE0F man_getting_haircut", "1F575-FE0F-200D-2640-FE0F woman_detective",
  "1F575-FE0F-200D-2642-FE0F man_detective", "1F645-200D-2640-FE0F woman_gesturing_no",
  "1F645-200D-2642-FE0F man_gesturing_no", "1F646-200D-2640-FE0F woman_gesturing_ok",
  "1F646-200D-2642-FE0F man_gesturing_ok", "1F647-200D-2640-FE0F woman_bowing",
  "1F647-200D-2642-FE0F man_bowing", "1F64B-200D-2640-FE0F woman_raising_hand",
  "1F64B-200D-2642-FE0F man_raising_hand", "1F64D-200D-2640-FE0F woman_frowning",
  "1F64D-200D-2642-FE0F man_frowning", "1F64E-200D-2640-FE0F woman_pouting",
  "1F64E-200D-2642-FE0F man_pouting", "1F6A3-200D-2640-FE0F woman_rowing_boat",
  "1F6A3-200D-2642-FE0F man_rowing_boat", "1F6B4-200D-2640-FE0F woman_biking",
  "1F6B4-200D-2642-FE0F man_biking", "1F6B5-200D-2640-FE0F woman_mountain_biking",
  "1F6B5-200D-2642-FE0F man_mountain_biking", "1F6B6-200D-2640-FE0F woman_walking",
  "1F6B6-200D-2642-FE0F man_walking", "1F926-200D-2640-FE0F woman_facepalming",
  "1F926-200D-2642-FE0F man_facepalming", "1F937-200D-2640-FE0F woman_shrugging",
  "1F937-200D-2642-FE0F man_shrugging", "1F938-200D-2640-FE0F woman_cartwheeling",
  "1F938-200D-2642-FE0F man_cartwheeling", "1F939-200D-2640-FE0F woman_juggling",
  "1F939-200D-2642-FE0F man_juggling", "1F93C-200D-2640-FE0F women_wrestling",
  "1F93C-200D-2642-FE0F men_wrestling", "1F93D-200D-2640-FE0F woman_playing_water_polo",
  "1F93D-200D-2642-FE0F man_playing_water_polo", "1F93E-200D-2640-FE0F woman_playing_handball",
  "1F93E-200D-2642-FE0F man_playing_handball", "1F9D1-200D-1F91D-200D-1F9D1 people_holding_hands",
  "1F9D6-200D-2640-FE0F woman_in_steamy_room", "1F9D6-200D-2642-FE0F man_in_steamy_room",
  "1F9D7-200D-2640-FE0F woman_climbing", "1F9D7-200D-2642-FE0F man_climbing",
  "1F9D8-200D-2640-FE0F woman_in_lotus_position", "1F9D8-200D-2642-FE0F man_in_lotus_position",
  "1F9D9-200D-2640-FE0F woman_mage", "1F9D9-200D-2642-FE0F man_mage",
  "1F9DA-200D-2640-FE0F woman_fairy", "1F9DA-200D-2642-FE0F man_fairy",
  "1F9DB-200D-2640-FE0F woman_vampire", "1F9DB-200D-2642-FE0F man_vampire",
  "1F9DC-200D-2640-FE0F mermaid", "1F9DC-200D-2642-FE0F merman", "1F9DD-200D-2640-FE0F woman_elf",
  "1F9DD-200D-2642-FE0F man_elf", "1F9DE-200D-2640-FE0F woman_genie",
  "1F9DE-200D-2642-FE0F man_genie", "1F9DF-200D-2640-FE0F woman_zombie",
  "1F9DF-200D-2642-FE0F man_zombie"]

end SwitchTrace.Pictograph
